import OfficeSchema.Proofs.Lists
import OfficeSchema.Proofs.Meaning.Sites

/-!
References as names of nodes. The way to a node is spelt with the names on it, each counted among
the siblings of that name, and no two nodes of a tree are spelt alike.
-/

namespace OfficeSchema

variable {e a : Element} {r : NodeRef} {is js : List Nat}

/-- The names on the way to the end of a path, each counted among the siblings of that name. -/
def Element.spelling : List Nat → Element → List PathStep
  | [], _ => []
  | i :: is, e =>
      match e.children[i]? with
      | some c => ⟨c.name, ((e.children.take i).map Element.name).count c.name + 1⟩ :: spelling is c
      | none => []

theorem Element.descendant?_append (is js : List Nat) (e : Element) :
    e.descendant? (is ++ js) = (e.descendant? is).bind (descendant? js) := by
  induction is generalizing e with
  | nil => rfl
  | cons i is ih =>
      rw [List.cons_append, descendant?, descendant?]
      cases e.children[i]? with
      | none => rfl
      | some c => exact ih c

theorem NodeRef.steps_along (r : NodeRef) (is : List Nat) (e : Element) :
    (r.along is e).steps = r.steps ++ e.spelling is := by
  induction is generalizing r e with
  | nil => simp [along, Element.spelling]
  | cons i is ih =>
      rw [along, Element.spelling]
      cases e.children[i]? with
      | none => simp
      | some c =>
          dsimp only
          rw [ih]
          simp [child, steps]

theorem NodeRef.along_append (h : e.descendant? is = some a) :
    r.along (is ++ js) e = (r.along is e).along js a := by
  induction is generalizing r e with
  | nil =>
      obtain rfl := Option.some.inj h
      rfl
  | cons i is ih =>
      obtain ⟨c, hc, h⟩ := Option.bind_eq_some_iff.mp h
      rw [List.cons_append, along, along, hc]
      exact ih h

theorem Element.spelling_inj (hi : (e.descendant? is).isSome = true)
    (hj : (e.descendant? js).isSome = true) (h : e.spelling is = e.spelling js) : is = js := by
  induction is generalizing e js with
  | nil =>
      cases js with
      | nil => rfl
      | cons j js =>
          obtain ⟨b, hb⟩ := Option.isSome_iff_exists.mp hj
          obtain ⟨d, hd, -⟩ := Option.bind_eq_some_iff.mp hb
          simp [spelling, hd] at h
  | cons i is ih =>
      obtain ⟨a, ha⟩ := Option.isSome_iff_exists.mp hi
      obtain ⟨c, hc, ha⟩ := Option.bind_eq_some_iff.mp ha
      cases js with
      | nil => simp [spelling, hc] at h
      | cons j js =>
          obtain ⟨b, hb⟩ := Option.isSome_iff_exists.mp hj
          obtain ⟨d, hd, hb⟩ := Option.bind_eq_some_iff.mp hb
          simp only [spelling, hc, hd, List.cons.injEq, PathStep.mk.injEq,
            Nat.add_right_cancel_iff, List.count_eq_countP, List.countP_map] at h
          obtain ⟨⟨hname, hcount⟩, hrest⟩ := h
          rw [hname] at hcount
          obtain rfl := countP_take_inj hc (by simp [hname]) hd (by simp) hcount
          obtain rfl := Option.some.inj (hc.symm.trans hd)
          rw [ih (by simp [ha]) (by simp [hb]) hrest]

theorem NodeRef.along_inj (hi : (e.descendant? is).isSome = true)
    (hj : (e.descendant? js).isSome = true) (h : r.along is e = r.along js e) : is = js := by
  have hsteps := congrArg NodeRef.steps h
  rw [steps_along, steps_along, List.append_cancel_left_eq] at hsteps
  exact Element.spelling_inj hi hj hsteps

theorem NodeRef.index_of_mem_childrenFrom {before : List String} {cs : List Element} {x : NodeRef}
    (h : x ∈ r.childrenFrom before cs) : before.count x.step.name < x.step.index := by
  induction cs generalizing before with
  | nil => simp [childrenFrom] at h
  | cons c cs ih =>
      rcases List.mem_cons.mp h with rfl | h
      · exact Nat.lt_succ_self _
      · exact Nat.lt_of_le_of_lt (List.count_le_count_cons) (ih h)

theorem NodeRef.nodup_childrenFrom (r : NodeRef) (before : List String) (cs : List Element) :
    (r.childrenFrom before cs).Nodup := by
  induction cs generalizing before with
  | nil => exact .nil
  | cons c cs ih =>
      rw [childrenFrom, List.nodup_cons]
      refine ⟨fun h => ?_, ih _⟩
      have hindex := index_of_mem_childrenFrom h
      simp only [child, List.count_cons_self] at hindex
      omega

theorem NodeRef.nodup_children (r : NodeRef) (cs : List Element) : (r.children cs).Nodup :=
  nodup_childrenFrom r [] cs

theorem NodeRef.nodup_zip_children (r : NodeRef) (cs : List Element) :
    ((cs.zip (r.children cs)).map Prod.snd).Nodup := by
  rw [map_snd_zip_children]
  exact nodup_children r cs

theorem NodeRef.getElem?_childrenFrom (r : NodeRef) (before : List String) (cs : List Element)
    (i : Nat) : (r.childrenFrom before cs)[i]? = cs[i]?.map (fun c =>
      r.child (((cs.take i).map Element.name).reverse ++ before) c.name) := by
  induction cs generalizing before i with
  | nil => simp [childrenFrom]
  | cons c cs ih =>
      cases i with
      | zero => simp [childrenFrom]
      | succ i => simp [childrenFrom, ih]

theorem NodeRef.getElem?_children (r : NodeRef) (cs : List Element) (i : Nat) :
    (r.children cs)[i]? = cs[i]?.map (fun c => r.child ((cs.take i).map Element.name) c.name) := by
  rw [children, getElem?_childrenFrom]
  simp only [List.append_nil, child_reverse]

end OfficeSchema
