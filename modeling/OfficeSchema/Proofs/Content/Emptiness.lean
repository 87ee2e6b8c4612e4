import OfficeSchema.Proofs.Content.Course
import OfficeSchema.Proofs.Content.Portion

/-!
Elements without children. What is missing in them is told from the bounds of the content model: a
particle is not asked for where it may be left out, or where its surroundings may. A choice that must
be made is asked for even if one of its alternatives may be left out.
-/

namespace OfficeSchema

namespace Particle

/-- Particles that allow no children at all. -/
inductive Emptiable (v : Version) : Particle → Prop
  | leaf {l : Leaf} (h : l.occurs.min = 0) : Emptiable v (.leaf l)
  | optional {c : Compositor} {o : Occurs} {members : List Particle} (h : o.min = 0) :
      Emptiable v (.group c o members)
  | members {c : Compositor} {o : Occurs} {members : List Particle} (hc : c ≠ .choice)
      (h : ∀ m ∈ members, m.isOffered v = true → Emptiable v m) : Emptiable v (.group c o members)
  | alternative {o : Occurs} {members : List Particle} {m : Particle} (hm : m ∈ members)
      (ho : m.isOffered v = true) (h : Emptiable v m) : Emptiable v (.group .choice o members)

/-- Particles that allow no children and leave no choice to be made. -/
inductive Leavable (v : Version) : Particle → Prop
  | leaf {l : Leaf} (h : l.occurs.min = 0) : Leavable v (.leaf l)
  | optional {c : Compositor} {o : Occurs} {members : List Particle} (h : o.min = 0) :
      Leavable v (.group c o members)
  | members {c : Compositor} {o : Occurs} {members : List Particle} (hc : c ≠ .choice)
      (h : ∀ m ∈ members, m.isOffered v = true → Leavable v m) : Leavable v (.group c o members)

theorem leavable_leaf_iff {v : Version} {l : Leaf} : Leavable v (.leaf l) ↔ l.occurs.min = 0 := by
  constructor
  · rintro ⟨h⟩
    exact h
  · exact .leaf

theorem leavable_group_iff {v : Version} {c : Compositor} {o : Occurs} {members : List Particle} :
    Leavable v (.group c o members) ↔
      o.min = 0 ∨ c ≠ .choice ∧ ∀ m ∈ members, m.isOffered v = true → Leavable v m := by
  constructor
  · intro h
    cases h with
    | optional h => exact .inl h
    | members hc h => exact .inr ⟨hc, h⟩
  · rintro (h | ⟨hc, h⟩)
    · exact .optional h
    · exact .members hc h

def Lively (v : Version) : Particle → Prop
  | .group .choice o members => (group .choice o members).offeredKinds v ≠ []
  | _ => True

end Particle

theorem Occurs.isExceeded_zero (o : Occurs) : o.isExceeded 0 = false := by
  unfold isExceeded
  cases o.max <;> simp

namespace Model

variable {v : Version} {F : List Slot} {p : Particle} {c : Compositor} {o : Occurs}
  {members : List Particle} {r : Route} {n : Nat}

theorem approved_group (hown : ∀ f ∈ ownChoice v c o members r, ∀ taken,
      Taken F f.place taken → ChoicePasses F f taken)
    (hmembers : ∀ i m, members[i]? = some m → Approved F (intoOutline v c o members r n i m)) :
    Approved F (outline v (.group c o members) r n) := by
  constructor
  · intro s hs
    obtain ⟨i, m, hi, hs⟩ := mem_slots_group.mp hs
    exact (hmembers i m hi).slots s hs
  · intro f hf
    rcases mem_groups_group.mp hf with hf | ⟨i, m, hi, hf⟩
    · exact hown f hf
    · exact (hmembers i m hi).choices f hf

theorem approved_of_not_offered (h : p.isOffered v = false) : Approved F (outline v p r n) := by
  constructor
  · intro s hs
    simp [isOffered_of_mem_slots hs] at h
  · intro f hf
    simp [isOffered_of_mem_groups hf] at h

theorem surrounded_nil {path : Path} {anchor : Option Nat} :
    Surrounded [] path anchor ↔ anchor = none := by
  cases anchor <;> simp [Surrounded]

theorem not_demanded_nil {min : Nat} {anchor : Option Nat} (path : Path)
    (h : min = 0 ∨ anchor ≠ none) :
    (Progress.after []).isDemanded path (.of min anchor) = false := by
  rw [← Bool.not_eq_true, isDemanded_of, surrounded_nil]
  rintro ⟨hmin, hanchor⟩
  exact h.elim hmin (· hanchor)

theorem slotPasses_nil {l : Leaf} (h : l.occurs.min = 0 ∨ r.anchor ≠ none) :
    SlotPasses [] (r.slot l) :=
  ⟨Occurs.isExceeded_zero _, fun _ => not_demanded_nil r.path h⟩

theorem taken_nil_eq {place : Path} {taken : List Nat} (h : Taken [] place taken) :
    taken = [] := by
  rw [List.eq_nil_iff_forall_not_mem]
  intro a ha
  obtain ⟨s, hs, -⟩ := (h.mem_iff a).mp ha
  exact List.not_mem_nil hs

theorem choicePasses_nil {taken : List Nat} (ht : Taken [] r.path taken)
    (h : o.min = 0 ∨ r.anchor ≠ none) : ChoicePasses [] (r.choice o) taken := by
  obtain rfl := taken_nil_eq ht
  exact ⟨Occurs.isExceeded_zero _, fun _ => not_demanded_nil r.path h⟩

theorem enter_anchor_ne_none (h : o.min = 0 ∨ r.anchor ≠ none) : (r.enter o).anchor ≠ none := by
  simp only [Route.enter]
  split
  · simp
  · next ho => exact h.resolve_left ho

theorem intoRoute_anchor_ne_none (h : (r.enter o).anchor ≠ none) (i : Nat) :
    (intoRoute v c o members r n i).anchor ≠ none := by
  simp only [intoRoute, Route.member]
  split
  · simp
  · exact h

theorem approved_nil_of_anchor (h : r.anchor ≠ none) : Approved [] (outline v p r n) := by
  induction p generalizing r n with
  | leaf l =>
      refine ⟨fun s hs => ?_, by simp [outline]⟩
      obtain ⟨-, rfl⟩ := mem_slots_leaf.mp hs
      exact slotPasses_nil (.inr h)
  | group c o members ih =>
      have henter : (r.enter o).anchor ≠ none := enter_anchor_ne_none (.inr h)
      apply approved_group
      · intro f hf taken ht
        obtain ⟨-, rfl⟩ := mem_ownChoice.mp hf
        exact choicePasses_nil ht (.inr henter)
      · intro i m hi
        exact ih m (List.mem_of_getElem? hi) (intoRoute_anchor_ne_none henter i)

theorem approved_nil_of_leavable (h : p.Leavable v) : Approved [] (outline v p r n) := by
  induction h generalizing r n with
  | leaf h =>
      refine ⟨fun s hs => ?_, by simp [outline]⟩
      obtain ⟨-, rfl⟩ := mem_slots_leaf.mp hs
      exact slotPasses_nil (.inl h)
  | optional h =>
      apply approved_group
      · intro f hf taken ht
        obtain ⟨-, rfl⟩ := mem_ownChoice.mp hf
        exact choicePasses_nil ht (.inl h)
      · intro i m _
        exact approved_nil_of_anchor (intoRoute_anchor_ne_none (enter_anchor_ne_none (.inl h)) i)
  | members hc _ ih =>
      apply approved_group
      · intro f hf
        exact absurd (mem_ownChoice.mp hf).1.1 hc
      · intro i m hi
        cases hm : m.isOffered v with
        | true => exact ih m (List.mem_of_getElem? hi) hm
        | false => exact approved_of_not_offered hm

theorem demanded_nil {min : Nat} (path : Path) (h : min ≠ 0) :
    (Progress.after []).isDemanded path (.of min none) = true :=
  (isDemanded_of _ _ _ _).mpr ⟨h, trivial⟩

theorem chooses_of_lively (h : Particle.Lively v (.group .choice o members)) :
    Chooses v .choice members := by
  obtain ⟨k, hk⟩ := List.exists_mem_of_ne_nil _ h
  rw [Particle.offeredKinds_group] at hk
  obtain ⟨i, m, hi, hk⟩ := Particle.mem_kindsOf_restrictAll.mp hk
  have hoff := Particle.isOffered_of_mem_offeredKinds hk
  exact ⟨rfl, List.countP_pos_iff.mpr ⟨m, List.mem_of_getElem? hi, hoff⟩⟩

theorem leavable_of_approved_nil (hp : p.isOffered v = true)
    (hl : p.Everywhere (Particle.Lively v)) (hanchor : r.anchor = none) (hfactor : r.factor ≠ 0)
    (h : Approved [] (outline v p r n)) : p.Leavable v := by
  induction p generalizing r n with
  | leaf l =>
      have hl : l.isAvailable v = true := hp
      by_contra hnot
      have hmin : l.occurs.min ≠ 0 := fun h => hnot (.leaf h)
      have hpass := (h.slots (r.slot l) (mem_slots_leaf.mpr ⟨hl, rfl⟩)).filled
        (Nat.pos_of_ne_zero (capMul_ne_zero hfactor hmin))
      have hdemanded : (Progress.after []).isDemanded (r.slot l).path (r.slot l).presence = true := by
        simpa [Route.slot, hanchor] using demanded_nil r.path hmin
      exact Bool.noConfusion (hpass.symm.trans hdemanded)
  | group c o members ih =>
      by_cases hmin : o.min = 0
      · exact .optional hmin
      obtain ⟨hself, hmembers⟩ := Particle.everywhere_group.mp hl
      have henter : (r.enter o).anchor = none := by simp [Route.enter, hmin, hanchor]
      by_cases hc : c = .choice
      · subst hc
        have hch := chooses_of_lively hself
        have hmem : (r.enter o).choice o ∈ (outline v (.group .choice o members) r n).groups :=
          mem_groups_group.mpr (.inl (mem_ownChoice.mpr ⟨hch, rfl⟩))
        have hpass := (h.choices _ hmem [] ⟨List.nodup_nil, by simp⟩).filled rfl
        have hdemanded : (Progress.after []).isDemanded ((r.enter o).choice o).place
            ((r.enter o).choice o).presence = true := by
          rw [Route.choice, henter]
          exact demanded_nil r.path hmin
        exact Bool.noConfusion (hpass.symm.trans hdemanded)
      · refine .members hc fun m hm hoff => ?_
        obtain ⟨i, hi⟩ := List.mem_iff_getElem?.mp hm
        have hnone : choiceNumber v c members n = none := if_neg fun h => hc h.1
        refine ih m hm hoff (hmembers m hm) ?_ ?_ (h.member hi)
        · simp [intoRoute, Route.member, hnone, henter]
        · simp only [intoRoute, Route.member, hnone, Route.enter, if_neg hmin]
          exact capMul_ne_zero hfactor hmin

theorem incomplete_nil_iff (hd : (p.offeredKinds v).Nodup) (parent : NodeRef) :
    underRule "Sch_IncompleteContent" (contentFindings (ofParticle v p) parent []) = [] ↔
      Approved [] (outline v p .root 0) := by
  have hall : underRule "Sch_IncompleteContent" (contentFindings (ofParticle v p) parent []) =
      contentFindings (ofParticle v p) parent [] := by
    rw [underRule_incomplete, contentFindings_eq_append]
    rfl
  rw [hall, contentFindings_ofParticle_eq_nil_iff (F := []) hd parent [] rfl]
  simp

theorem empty_content_complete (v : Version) (p : Particle) (hd : (p.offeredKinds v).Nodup)
    (parent : NodeRef) :
    let missing := underRule "Sch_IncompleteContent" (contentFindings (ofParticle v p) parent [])
    (p.Leavable v → missing = []) ∧
      (p.isOffered v = true → p.Everywhere (Particle.Lively v) → ¬p.Leavable v →
        missing ≠ []) := by
  intro missing
  have hnil : missing = [] ↔ Approved [] (outline v p .root 0) := incomplete_nil_iff hd parent
  refine ⟨fun h => hnil.mpr (approved_nil_of_leavable h), fun hp hl hnot hmissing => hnot ?_⟩
  exact leavable_of_approved_nil hp hl rfl Nat.one_ne_zero (hnil.mp hmissing)

theorem empty_content_complete_sequences :
    let a : Particle := .leaf ⟨⟨"a"⟩, .optional, none⟩
    let b : Particle := .leaf ⟨⟨"b"⟩, .once, none⟩
    let parent : NodeRef := ⟨[], ⟨"p", 1⟩, none⟩
    let missing (p : Particle) :=
      underRule "Sch_IncompleteContent" (contentFindings (ofParticle .office2007 p) parent [])
    missing (.group .sequence .once [a, .group .choice .optional [b]]) = [] ∧
      missing (.group .sequence .once [a, b]) ≠ [] := by
  intro a b parent missing
  constructor
  · apply (empty_content_complete .office2007 _ (by decide) parent).1
    simp [a, b, Particle.leavable_group_iff, Particle.leavable_leaf_iff, Occurs.optional]
  · apply (empty_content_complete .office2007 _ (by decide) parent).2 rfl
    · exact ⟨trivial, trivial, trivial, trivial⟩
    · simp [a, b, Particle.leavable_group_iff, Particle.leavable_leaf_iff, Particle.isOffered,
        Leaf.isAvailable, Version.allows, Occurs.once]

theorem incomplete_of_emptiable :
    let p : Particle := .group .choice .once
      [.leaf ⟨⟨"a"⟩, .optional, none⟩, .leaf ⟨⟨"b"⟩, .once, none⟩]
    let parent : NodeRef := ⟨[], ⟨"p", 1⟩, none⟩
    (p.offeredKinds .office2007).Nodup ∧ p.Emptiable .office2007 ∧
      underRule "Sch_IncompleteContent" (contentFindings (ofParticle .office2007 p) parent []) =
        [.ofDefect parent (.incomplete "p" [⟨"a"⟩, ⟨"b"⟩])] := by
  intro p parent
  exact ⟨by decide, .alternative List.mem_cons_self rfl (.leaf rfl), rfl⟩

end Model

end OfficeSchema
