import Mathlib.Data.List.Basic
import OfficeSchema.Check.Meaning

/-!
Where the typed nodes of a tree stand. A site is a visited node with the way to it, as indices of
children; the sites of a tree are the typed nodes that can be reached without passing through
unknown content, in document order.
-/

namespace OfficeSchema

@[elab_as_elim]
theorem Element.induct {motive : Element → Prop}
    (node : ∀ n attributes text children, (∀ c ∈ children, motive c) →
      motive ⟨n, attributes, text, children⟩) (e : Element) : motive e :=
  Element.rec (motive_1 := motive) (motive_2 := fun es => ∀ e ∈ es, motive e) node
    (fun _ h => nomatch h)
    (fun _ _ he hes => fun d hd => by
      cases hd with
      | head => exact he
      | tail _ hd => exact hes d hd) e

/-- The node at the end of a way that enters no unknown element, comment or instruction. -/
def Element.reached? : List Nat → Element → Option Element
  | [], e => some e
  | i :: is, e => (e.children[i]?).bind (fun c => if c.node.isWalked then reached? is c else none)

def NodeRef.along : NodeRef → List Nat → Element → NodeRef
  | r, [], _ => r
  | r, i :: is, e =>
      match e.children[i]? with
      | some c => along (r.child ((e.children.take i).map Element.name) c.name) is c
      | none => r

abbrev Site := List Nat × Visited

mutual

def sites (node : NodeRef) : Element → List Site
  | ⟨n, attributes, text, children⟩ =>
      n.kind?.toList.map (fun k => ([], ⟨⟨n, attributes, text, children⟩, k, node⟩)) ++
        sitesBelow node [] 0 children

def sitesBelow (parent : NodeRef) (before : List String) (i : Nat) : List Element → List Site
  | [] => []
  | c :: cs =>
      (if c.node.isWalked then
        (sites (parent.child before c.name) c).map (fun s => (i :: s.1, s.2))
      else []) ++ sitesBelow parent (c.name :: before) (i + 1) cs

end

variable {e : Element} {r : NodeRef} {s : Site}

theorem visitedBelow_eq {cs : List Element}
    (h : ∀ c ∈ cs, ∀ r, (sites r c).map Prod.snd = visited r c) (before : List String) (i : Nat) :
    (sitesBelow r before i cs).map Prod.snd = visitedBelow r before cs := by
  induction cs generalizing before i with
  | nil => rfl
  | cons c cs ih =>
      have hcs := ih (fun d hd => h d (by simp [hd])) (c.name :: before) (i + 1)
      rw [sitesBelow, visitedBelow, List.map_append, hcs]
      split
      · rw [List.map_map, ← h c (by simp)]
        rfl
      · rfl

theorem visited_eq (r : NodeRef) (e : Element) : visited r e = (sites r e).map Prod.snd := by
  induction e using Element.induct generalizing r with
  | node n attributes text children ih =>
      have hbelow := visitedBelow_eq (r := r) (fun c hc r => (ih c hc r).symm) [] 0
      rw [sites, List.map_append, hbelow]
      cases n <;> simp [visited, Node.kind?]

theorem NodeRef.child_reverse (r : NodeRef) (before : List String) (name : String) :
    r.child before.reverse name = r.child before name := by
  simp [child, List.count_reverse]

theorem mem_sitesBelow {cs : List Element} {before : List String} {i : Nat} :
    s ∈ sitesBelow r before i cs ↔ ∃ (j : Nat) (c : Element) (t : Site), cs[j]? = some c ∧
      c.node.isWalked = true ∧ s = ((i + j) :: t.1, t.2) ∧
        t ∈ sites (r.child (((cs.take j).map Element.name).reverse ++ before) c.name) c := by
  induction cs generalizing before i with
  | nil => simp [sitesBelow]
  | cons c cs ih =>
      rw [sitesBelow, List.mem_append, ih]
      constructor
      · rintro (h | ⟨j, d, t, hj, hd, rfl, ht⟩)
        · split at h
          · next hc =>
              obtain ⟨t, ht, rfl⟩ := List.mem_map.mp h
              exact ⟨0, c, t, rfl, hc, rfl, by simpa using ht⟩
          · simp at h
        · refine ⟨j + 1, d, t, hj, hd, by simp [Nat.add_assoc, Nat.add_comm 1], ?_⟩
          simpa using ht
      · rintro ⟨j, d, t, hj, hd, rfl, ht⟩
        cases j with
        | zero =>
            obtain rfl : c = d := by simpa using hj
            left
            rw [if_pos hd]
            exact List.mem_map.mpr ⟨t, by simpa using ht, rfl⟩
        | succ j =>
            refine .inr ⟨j, d, t, hj, hd, by simp [Nat.add_assoc, Nat.add_comm 1], ?_⟩
            simpa using ht

theorem mem_sites (r : NodeRef) (e : Element) (s : Site) : s ∈ sites r e ↔
    e.reached? s.1 = some s.2.element ∧ s.2.element.kind? = some s.2.kind ∧
      s.2.node = r.along s.1 e := by
  induction e using Element.induct generalizing r s with
  | node n attributes text children ih =>
      obtain ⟨path, element, kind, node⟩ := s
      rw [sites, List.mem_append, mem_sitesBelow]
      cases path with
      | nil =>
          simp only [List.mem_map, Option.mem_toList, Element.reached?, NodeRef.along,
            Prod.mk.injEq, Visited.mk.injEq, Option.some.injEq]
          constructor
          · rintro (⟨k, hk, -, rfl, rfl, rfl⟩ | ⟨j, c, t, -, -, ⟨hpath, -⟩, -⟩)
            · exact ⟨rfl, hk, rfl⟩
            · simp at hpath
          · rintro ⟨rfl, hk, rfl⟩
            exact .inl ⟨kind, hk, trivial, rfl, rfl, rfl⟩
      | cons i is =>
          constructor
          · rintro (h | ⟨j, c, ⟨is', x⟩, hj, hc, heq, ht⟩)
            · simp at h
            · obtain ⟨hpath, rfl⟩ := Prod.mk.inj heq
              obtain ⟨hij, rfl⟩ := List.cons.inj hpath
              obtain rfl : i = j := hij.trans (Nat.zero_add j)
              rw [List.append_nil, NodeRef.child_reverse] at ht
              obtain ⟨hr, hk, hn⟩ := (ih c (List.mem_of_getElem? hj) _ _).mp ht
              refine ⟨?_, hk, ?_⟩
              · simpa [Element.reached?, hj, hc] using hr
              · simpa [NodeRef.along, hj] using hn
          · rintro ⟨hr, hk, hn⟩
            obtain ⟨c, hi, hr⟩ := Option.bind_eq_some_iff.mp hr
            split at hr
            · next hc =>
                refine .inr ⟨i, c, (is, ⟨element, kind, node⟩), hi, hc, by simp, ?_⟩
                rw [List.append_nil, NodeRef.child_reverse]
                refine (ih c (List.mem_of_getElem? hi) _ _).mpr ⟨hr, hk, ?_⟩
                rw [hn, NodeRef.along]
                simp only at hi ⊢
                rw [hi]
            · simp at hr

theorem sitesBelow_sorted {cs : List Element}
    (h : ∀ c ∈ cs, ∀ r, (sites r c).Pairwise (fun s t => s.1 < t.1)) (before : List String)
    (i : Nat) : (sitesBelow r before i cs).Pairwise (fun s t => s.1 < t.1) := by
  induction cs generalizing before i with
  | nil => exact .nil
  | cons c cs ih =>
      rw [sitesBelow, List.pairwise_append]
      refine ⟨?_, ih (fun d hd => h d (by simp [hd])) _ _, fun s hs t ht => ?_⟩
      · split
        · rw [List.pairwise_map]
          refine (h c (by simp) _).imp fun hst => ?_
          exact List.cons_lt_cons_iff.mpr (.inr ⟨rfl, hst⟩)
        · exact .nil
      · obtain ⟨j, d, t, -, -, rfl, -⟩ := mem_sitesBelow.mp ht
        split at hs
        · obtain ⟨s, -, rfl⟩ := List.mem_map.mp hs
          exact List.cons_lt_cons_iff.mpr (.inl (by omega))
        · simp at hs

theorem sites_sorted (r : NodeRef) (e : Element) :
    (sites r e).Pairwise (fun s t => s.1 < t.1) := by
  induction e using Element.induct generalizing r with
  | node n attributes text children ih =>
      rw [sites, List.pairwise_append]
      refine ⟨?_, sitesBelow_sorted ih [] 0, fun s hs t ht => ?_⟩
      · cases n.kind? <;> simp
      · obtain ⟨k, -, rfl⟩ := List.mem_map.mp hs
        obtain ⟨j, c, t, -, -, rfl, -⟩ := mem_sitesBelow.mp ht
        exact List.nil_lt_cons _ _

theorem sites_nodup (r : NodeRef) (e : Element) : ((sites r e).map Prod.fst).Nodup := by
  rw [List.Nodup, List.pairwise_map]
  refine (sites_sorted r e).imp fun hlt heq => ?_
  rw [heq] at hlt
  exact List.lt_irrefl _ hlt

end OfficeSchema
