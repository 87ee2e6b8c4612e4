import OfficeSchema.Proofs.Content.Likeness
import OfficeSchema.Proofs.Particle.Order

/-!
Ordered insertion. Elements are ordered by the places of their kinds in a content model; inserting
them one after the other sorts them, those of one place in the order of insertion. The check of
content looks at places as well, but only at positions of sequences and only at neighbours: what is
sorted is never out of sequence.
-/

namespace OfficeSchema

section Sorting

variable {α : Type} {cmp : α → α → Ordering} [Std.TransCmp cmp] {xs ys : List α} {a b : α}

theorem mem_of_filter
    (h : ∀ a, xs.filter (fun b => cmp a b == .eq) = ys.filter (fun b => cmp a b == .eq))
    (ha : a ∈ xs) : a ∈ ys := by
  have hmem : a ∈ xs.filter (fun b => cmp a b == .eq) := by
    simp [ha, Std.ReflCmp.compare_self]
  rw [h] at hmem
  exact (List.mem_filter.mp hmem).1

theorem eq_of_sorted_of_filter (hx : xs.Pairwise (fun a b => (cmp a b).isLE))
    (hy : ys.Pairwise (fun a b => (cmp a b).isLE))
    (h : ∀ a, xs.filter (fun b => cmp a b == .eq) = ys.filter (fun b => cmp a b == .eq)) :
    xs = ys := by
  induction xs generalizing ys with
  | nil => exact (List.eq_nil_iff_forall_not_mem.mpr fun a ha =>
      absurd (mem_of_filter (fun a => (h a).symm) ha) List.not_mem_nil).symm
  | cons a xs ih =>
      obtain ⟨hax, hxs⟩ := List.pairwise_cons.mp hx
      have ha : a ∈ ys := mem_of_filter h List.mem_cons_self
      cases ys with
      | nil => exact absurd ha List.not_mem_nil
      | cons b ys =>
          obtain ⟨hby, hys⟩ := List.pairwise_cons.mp hy
          have hb : b ∈ a :: xs := mem_of_filter (fun a => (h a).symm) List.mem_cons_self
          have hself (a : α) : (cmp a a == .eq) = true := by simp [Std.ReflCmp.compare_self]
          -- the heads are of one place, since each stands somewhere in the other list
          have hab : cmp a b = .eq := by
            rcases List.mem_cons.mp hb with rfl | hb
            · exact Std.ReflCmp.compare_self
            rcases List.mem_cons.mp ha with rfl | ha
            · exact Std.ReflCmp.compare_self
            · exact Std.OrientedCmp.isLE_antisymm (hax b hb) (hby a ha)
          obtain rfl : a = b := by
            have hheads := h a
            simp only [List.filter_cons, hself, hab, beq_self_eq_true, if_true,
              List.cons.injEq] at hheads
            exact hheads.1
          rw [ih hxs hys fun x => ?_]
          have hx := h x
          rw [List.filter_cons, List.filter_cons] at hx
          split at hx
          · exact (List.cons.inj hx).2
          · exact hx

theorem filter_mergeSort (xs : List α) (a : α) :
    (xs.mergeSort (fun a b => (cmp a b).isLE)).filter (fun b => cmp a b == .eq) =
      xs.filter (fun b => cmp a b == .eq) := by
  have htrans (a b c : α) : (cmp a b).isLE = true → (cmp b c).isLE = true →
      (cmp a c).isLE = true := Std.TransCmp.isLE_trans
  have hsub : (xs.filter (fun b => cmp a b == .eq)).Sublist
      (xs.mergeSort (fun a b => (cmp a b).isLE)) := by
    refine List.sublist_mergeSort htrans isLE_or_isLE ?_ List.filter_sublist
    refine List.pairwise_of_forall_mem_list fun b hb c hc => ?_
    have hab : cmp a b = .eq := by simpa using (List.mem_filter.mp hb).2
    have hac : cmp a c = .eq := by simpa using (List.mem_filter.mp hc).2
    rw [Std.TransCmp.congr_left (Std.OrientedCmp.eq_symm hab), hac]
    rfl
  have hfilter := hsub.filter (fun b => cmp a b == .eq)
  simp only [List.filter_filter, Bool.and_self] at hfilter
  refine (hfilter.eq_of_length ?_).symm
  exact ((List.mergeSort_perm xs _).filter _).length_eq.symm

theorem mergeSort_eq_of_filter
    (h : ∀ a, xs.filter (fun b => cmp a b == .eq) = ys.filter (fun b => cmp a b == .eq)) :
    xs.mergeSort (fun a b => (cmp a b).isLE) = ys.mergeSort (fun a b => (cmp a b).isLE) := by
  have hsorted (zs : List α) : (zs.mergeSort (fun a b => (cmp a b).isLE)).Pairwise
      (fun a b => (cmp a b).isLE) :=
    List.pairwise_mergeSort (fun _ _ _ => Std.TransCmp.isLE_trans) isLE_or_isLE zs
  refine eq_of_sorted_of_filter (hsorted xs) (hsorted ys) fun a => ?_
  rw [filter_mergeSort, filter_mergeSort, h]

end Sorting

instance : Std.TransCmp Model.comparePaths where
  eq_swap {p q} := by
    cases p <;> cases q <;> simp [Model.comparePaths, Path.compare_swap]
  isLE_trans {p q r} hpq hqr := by
    cases p <;> cases q <;> cases r <;> simp_all [Model.comparePaths]
    exact Std.TransCmp.isLE_trans hpq hqr

namespace Element

def placeIn (m : Model) (e : Element) : Option Path := e.kind?.bind m.path?

theorem compareIn_eq (m : Model) (x y : Element) :
    compareIn m x y = Model.comparePaths (x.placeIn m) (y.placeIn m) := rfl

instance (m : Model) : Std.TransCmp (compareIn m) where
  eq_swap {x y} := by
    rw [compareIn_eq, compareIn_eq]
    exact Std.OrientedCmp.eq_swap
  isLE_trans {x y z} hxy hyz := by
    rw [compareIn_eq] at hxy hyz ⊢
    exact Std.TransCmp.isLE_trans hxy hyz

def insertedIn (m : Model) (c : Element) (ds : List Element) : List Element :=
  ds.take (insertionIndex m c ds) ++ c :: ds.drop (insertionIndex m c ds)

variable {m : Model} {c d x : Element} {ds : List Element}

theorem insertedIn_cons_of_gt (h : compareIn m d c = .gt) :
    insertedIn m c (d :: ds) = c :: d :: ds := by
  simp [insertedIn, insertionIndex, h]

theorem insertedIn_cons_of_isLE (h : (compareIn m d c).isLE = true) :
    insertedIn m c (d :: ds) = d :: insertedIn m c ds := by
  have hne : compareIn m d c ≠ .gt := by
    rintro hgt
    rw [hgt] at h
    exact absurd h (by decide)
  simp [insertedIn, insertionIndex, hne]

theorem mem_insertedIn : x ∈ insertedIn m c ds ↔ x = c ∨ x ∈ ds := by
  have hds := List.take_append_drop (insertionIndex m c ds) ds
  conv => rhs; rw [← hds]
  simp only [insertedIn, List.mem_append, List.mem_cons]
  tauto

theorem sorted_insertedIn (h : ds.Pairwise (fun x y => (compareIn m x y).isLE)) (c : Element) :
    (insertedIn m c ds).Pairwise (fun x y => (compareIn m x y).isLE) := by
  induction ds with
  | nil => exact List.pairwise_singleton _ c
  | cons d ds ih =>
      obtain ⟨hd, hds⟩ := List.pairwise_cons.mp h
      cases hdc : compareIn m d c with
      | gt =>
          have hcd : (compareIn m c d).isLE = true := by
            rw [Std.OrientedCmp.gt_iff_lt.mp hdc]
            rfl
          rw [insertedIn_cons_of_gt hdc, List.pairwise_cons]
          refine ⟨fun x hx => ?_, h⟩
          rcases List.mem_cons.mp hx with rfl | hx
          · exact hcd
          · exact Std.TransCmp.isLE_trans hcd (hd x hx)
      | _ =>
          have hle : (compareIn m d c).isLE = true := by
            rw [hdc]
            rfl
          rw [insertedIn_cons_of_isLE hle, List.pairwise_cons]
          refine ⟨fun x hx => ?_, ih hds⟩
          rcases mem_insertedIn.mp hx with rfl | hx
          · exact hle
          · exact hd x hx

theorem filter_insertedIn (h : ds.Pairwise (fun x y => (compareIn m x y).isLE)) (c x : Element) :
    (insertedIn m c ds).filter (fun y => compareIn m x y == .eq) =
      (ds ++ [c]).filter (fun y => compareIn m x y == .eq) := by
  induction ds with
  | nil => rfl
  | cons d ds ih =>
      obtain ⟨hd, hds⟩ := List.pairwise_cons.mp h
      cases hdc : compareIn m d c with
      | gt =>
          rw [insertedIn_cons_of_gt hdc, List.filter_append, List.filter_cons]
          split
          · next hxc =>
              -- everything from `d` on is behind `c`, so nothing of it is of the place of `c`
              have hnone : (d :: ds).filter (fun y => compareIn m x y == .eq) = [] := by
                rw [List.filter_eq_nil_iff]
                intro y hy hxy
                have hdy : (compareIn m d y).isLE = true := by
                  rcases List.mem_cons.mp hy with rfl | hy
                  · simp [Std.ReflCmp.compare_self]
                  · exact hd y hy
                have hcy : compareIn m c y = .lt :=
                  Std.TransCmp.lt_of_lt_of_isLE (Std.OrientedCmp.gt_iff_lt.mp hdc) hdy
                rw [← Std.TransCmp.congr_left (eq_of_beq hxc), eq_of_beq hxy] at hcy
                exact absurd hcy (by decide)
              rw [hnone, List.filter_cons, if_pos hxc]
              rfl
          · next hxc =>
              have hc : [c].filter (fun y => compareIn m x y == .eq) = [] := by simpa using hxc
              rw [hc, List.append_nil]
      | _ =>
          have hle : (compareIn m d c).isLE = true := by
            rw [hdc]
            rfl
          rw [insertedIn_cons_of_isLE hle, List.cons_append, List.filter_cons, List.filter_cons,
            ih hds]

theorem insertOrdered_index (d c : Element) (m : Model) :
    (d.insertOrdered c m).1.children[(d.insertOrdered c m).2]? = some c ∧
      (d.insertOrdered c m).1.children.eraseIdx (d.insertOrdered c m).2 = d.children := by
  have hlen : (d.children.take (insertionIndex m c d.children)).length =
      insertionIndex m c d.children := by
    rw [List.length_take, Nat.min_eq_left (insertionIndex_le m c d.children)]
  simp only [insertOrdered]
  constructor
  · rw [List.getElem?_append_right (Nat.le_of_eq hlen), hlen, Nat.sub_self]
    rfl
  · rw [List.eraseIdx_append_of_length_le (Nat.le_of_eq hlen), hlen, Nat.sub_self,
      List.eraseIdx_cons_zero, List.take_append_drop]

def insertEach (m : Model) (e : Element) (cs : List Element) : Element :=
  cs.foldl (fun e c => (e.insertOrdered c m).1) e

theorem insertEach_eq {e : Element} (h : e.children.Pairwise (fun x y => (compareIn m x y).isLE))
    (cs : List Element) : e.insertEach m cs =
      { e with children := (e.children ++ cs).mergeSort (fun x y => (compareIn m x y).isLE) } := by
  induction cs generalizing e with
  | nil =>
      obtain ⟨n, attributes, text, children⟩ := e
      rw [List.append_nil, List.mergeSort_of_pairwise h]
      rfl
  | cons c cs ih =>
      have hstep : e.insertEach m (c :: cs) =
          { e with children := insertedIn m c e.children }.insertEach m cs := rfl
      rw [hstep, ih (sorted_insertedIn h c)]
      congr 1
      refine mergeSort_eq_of_filter fun x => ?_
      rw [List.filter_append, filter_insertedIn h, ← List.filter_append, List.append_assoc,
        List.singleton_append]

end Element

theorem Path.ahead_of_isLE {p q : Path} (h : (q.compare p).isLE = true) : p.ahead q = false := by
  induction p generalizing q with
  | nil => cases q <;> rfl
  | cons a p ih =>
      cases q with
      | nil => rfl
      | cons b q =>
          rw [ahead]
          split
          · next hab =>
              subst hab
              rw [compare, Step.compare_self] at h
              exact ih h
          · rw [decide_eq_false_iff_not]
            intro hlt
            have hgt : Ord.compare b.position a.position = .gt := Nat.compare_eq_gt.mpr hlt
            rw [compare, Step.compare, hgt] at h
            exact Bool.false_ne_true h

theorem Slot.precedes_of_isLE {previous next : Slot}
    (h : (previous.path.compare next.path).isLE = true) : next.precedes previous = false := by
  rw [precedes_eq, Path.ahead_of_isLE h, Bool.false_and]

namespace Model

variable {m : Model} {s t : Slot} {x y : Element}

theorem placeIn_eq (m : Model) (e : Element) : e.placeIn m = (m.slotOf? e).map Slot.path := by
  rw [Element.placeIn, slotOf?]
  cases e.kind? <;> rfl

theorem compareIn_of_slots (hx : m.slotOf? x = some s) (hy : m.slotOf? y = some t) :
    Element.compareIn m x y = s.path.compare t.path := by
  rw [Element.compareIn_eq, placeIn_eq, placeIn_eq, hx, hy]
  rfl

theorem ordered_of_mem_contentFrom {g : Progress} {parent : NodeRef}
    {cs : List (Element × NodeRef)} {f : Finding}
    (hcs : cs.Pairwise (fun x y => (Element.compareIn m x.1 y.1).isLE))
    (hg : ∀ s ∈ g.last, ∀ c ∈ cs, ∀ t, m.slotOf? c.1 = some t → (s.path.compare t.path).isLE)
    (h : f ∈ contentFrom m parent g cs) : f.defect.rule ≠ "Sch_UnexpectedElementContent" := by
  induction cs generalizing g with
  | nil =>
      obtain ⟨d, hd, rfl⟩ := List.mem_map.mp h
      rw [Finding.ofDefect, rule_of_mem_missing hd]
      decide
  | cons c cs ih =>
      obtain ⟨c, ref⟩ := c
      obtain ⟨hc, hcs⟩ := List.pairwise_cons.mp hcs
      have hrole := m.role_spec c
      have hrest : ∀ s ∈ g.last, ∀ c ∈ cs, ∀ t, m.slotOf? c.1 = some t →
          (s.path.compare t.path).isLE :=
        fun s hs x hx => hg s hs x (List.mem_cons_of_mem _ hx)
      rw [contentFrom] at h
      cases hr : c.node.role m with
      | slot s =>
          rw [hr] at h hrole
          -- the last child in sequence is not behind this one, which becomes the last one
          have hseq : g.isOutOfSequence s = false := by
            rw [Progress.isOutOfSequence]
            split
            · rfl
            · next previous hlast =>
                exact Slot.precedes_of_isLE
                  (hg previous hlast (c, ref) List.mem_cons_self s hrole.1)
          rcases List.mem_append.mp h with h | h
          · obtain ⟨d, hd, rfl⟩ := List.mem_map.mp h
            rw [Finding.ofDefect]
            rcases rule_of_mem_slotDefects hd with hd | ⟨-, hout⟩
            · simp [hd]
            · rw [hseq] at hout
              exact absurd hout Bool.false_ne_true
          · refine ih hcs (fun p hp x hx t ht => ?_) h
            rw [Progress.take, hseq, if_neg Bool.false_ne_true] at hp
            obtain rfl := Option.some.inj hp
            rw [← compareIn_of_slots hrole.1 ht]
            exact hc x hx
      | stranger name =>
          rw [hr] at h
          rcases List.mem_cons.mp h with rfl | h
          · simp [Finding.ofDefect, Defect.rule]
          · exact ih hcs hrest h
      | ignored =>
          rw [hr] at h
          exact ih hcs hrest h

theorem ordered_of_mem_contentFindings {parent : NodeRef} {cs : List Element} {f : Finding}
    (hcs : cs.Pairwise (fun x y => (Element.compareIn m x y).isLE))
    (h : f ∈ contentFindings m parent cs) : f.defect.rule ≠ "Sch_UnexpectedElementContent" := by
  rw [contentFindings_eq_contentFrom] at h
  refine ordered_of_mem_contentFrom (g := .start) ?_ (by simp [Progress.start]) h
  rw [← NodeRef.map_fst_zip_children parent cs, List.pairwise_map] at hcs
  exact hcs

end Model

namespace Element

/-- Inserting elements one after the other into an element without children sorts them, those of one
place in the order of insertion; an insertion gives the index where the child then stands, and
children in this order are never out of sequence. -/
theorem insertEach_sorts (m : Model) (e : Element) (cs : List Element) (h : e.children = []) :
    e.insertEach m cs =
      { e with children := cs.mergeSort (fun x y => (compareIn m x y).isLE) } ∧
    (∀ d c : Element, (d.insertOrdered c m).1.children[(d.insertOrdered c m).2]? = some c ∧
      (d.insertOrdered c m).1.children.eraseIdx (d.insertOrdered c m).2 = d.children) ∧
    ∀ parent, ∀ f ∈ contentFindings m parent (e.insertEach m cs).children,
      f.defect.rule ≠ "Sch_UnexpectedElementContent" := by
  have heq : e.insertEach m cs =
      { e with children := cs.mergeSort (fun x y => (compareIn m x y).isLE) } := by
    rw [insertEach_eq (by simp [h]), h, List.nil_append]
  refine ⟨heq, fun d c => insertOrdered_index d c m, fun parent f hf => ?_⟩
  rw [heq] at hf
  exact Model.ordered_of_mem_contentFindings
    (List.pairwise_mergeSort (fun _ _ _ => Std.TransCmp.isLE_trans) isLE_or_isLE cs) hf

theorem insertEach_sorts_mixed : ∃ (m : Model) (e : Element) (cs : List Element),
    e.children = [] ∧
    (cs.mergeSort (fun x y => (compareIn m x y).isLE)).map (fun c => (c.name, c.text)) =
      [("x", none), ("#comment", none), ("y", none), ("w:a", none), ("w:b", some "1"),
        ("w:b", some "2"), ("w:c", none)] ∧
    ∀ parent, ∀ f ∈ contentFindings m parent (e.insertEach m cs).children,
      f.defect.rule ≠ "Sch_UnexpectedElementContent" := by
  let leaf (name : String) (o : Occurs) : Particle := .leaf ⟨⟨name⟩, o, none⟩
  let m : Model := .ofParticle .office2007 (.group .sequence .once
    [leaf "w:a" .optional, .group .choice .zeroOrMore [leaf "w:b" .once, leaf "w:c" .once]])
  let typed (name : String) : Element := .ofNode (.typed ⟨name⟩ ⟨23, name⟩ .empty)
  let cs : List Element := [typed "w:c", .ofNode (.unknown "x" none), (typed "w:b").setText "1",
    .ofNode (.comment ""), typed "w:a", (typed "w:b").setText "2", .ofNode (.unknown "y" none)]
  have h := insertEach_sorts m (typed "w:p") cs rfl
  refine ⟨m, typed "w:p", cs, rfl, ?_, h.2.2⟩
  have hsorted : cs.mergeSort (fun x y => (compareIn m x y).isLE) =
      ((typed "w:p").insertEach m cs).children := by rw [h.1]
  rw [hsorted]
  decide

end Element

end OfficeSchema
