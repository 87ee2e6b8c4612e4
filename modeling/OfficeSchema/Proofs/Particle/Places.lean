import OfficeSchema.Check.Structure
import OfficeSchema.Proofs.Particle.Outline
import OfficeSchema.Proofs.Particle.Paths

/-!
Places in an outline. All that a particle adds lies below the path that enters it, members of a
group lie apart, and the choices of a slot are the choice groups that its path goes through.
-/

namespace OfficeSchema

theorem Step.toMember_inj {c : Compositor} {i j : Nat} (h : toMember c i = toMember c j) :
    i = j := by
  cases c <;> simpa [toMember, Compositor.isUnordered] using h

theorem step_unique {path place : Path} {a b : Step} (ha : place ++ [a] <+: path)
    (hb : place ++ [b] <+: path) : a = b := by
  have h := (List.prefix_of_prefix_length_le ha hb (by simp)).eq_of_length (by simp)
  simpa using h

theorem Slot.precedes_of_steps {place : Path} {x y : Step} {a b : Slot}
    (ha : place ++ [x] <+: a.path) (hb : place ++ [y] <+: b.path) (hne : x ≠ y) :
    b.precedes a = (decide (y.position < x.position) &&
      !(a.repeatable.take (place.length + 1)).any id) := by
  obtain ⟨u, hu⟩ := ha
  obtain ⟨w, hw⟩ := hb
  have hshared : Path.shared a.path b.path = place.length := by
    rw [← hu, ← hw, List.append_assoc, List.append_assoc, Path.shared_append]
    simp [Path.shared, hne]
  have hlen : place.length < a.path.length := by
    simp only [← hu, List.length_append, List.length_singleton]
    omega
  have hdiv : Path.divergence? a.path b.path = some place.length := by
    refine Path.divergence?_eq_some_iff.mpr ⟨fun he => ?_, hshared⟩
    rw [he, Path.shared_self, ← he] at hshared
    exact Nat.lt_irrefl _ (hshared ▸ hlen)
  have hx : a.path[place.length]? = some x := by simp [← hu]
  have hy : b.path[place.length]? = some y := by simp [← hw]
  simp only [precedes, hdiv, hx, hy]

theorem Slot.precedes_self (s : Slot) : s.precedes s = false := by
  simp [precedes, Path.divergence?_self]

namespace Model

variable {v : Version} {c : Compositor} {o : Occurs} {members : List Particle} {r : Route}
  {p : Particle} {n : Nat}

theorem path_intoRoute (i : Nat) :
    (intoRoute v c o members r n i).path = r.path ++ [Step.toMember c i] := rfl

theorem repeatable_intoRoute (i : Nat) :
    (intoRoute v c o members r n i).repeatable = r.repeatable ++ [o.isRepeatable] := rfl

theorem total_intoRoute (i : Nat) :
    (intoRoute v c o members r n i).total = r.total.times o := rfl

theorem slot_below_route {s : Slot} (hs : s ∈ (outline v p r n).slots) :
    r.path <+: s.path ∧ r.repeatable <+: s.repeatable := by
  induction p generalizing r n with
  | leaf l =>
      cases hl : l.isAvailable v with
      | false => simp [outline, hl] at hs
      | true =>
          obtain rfl : s = r.slot l := by simpa [outline, hl] using hs
          exact ⟨List.prefix_rfl, List.prefix_rfl⟩
  | group c o members ih =>
      obtain ⟨i, m, hi, hs⟩ := mem_slots_group.mp hs
      obtain ⟨hp, hr⟩ := ih m (List.mem_of_getElem? hi) hs
      exact ⟨(List.prefix_append _ _).trans hp, (List.prefix_append _ _).trans hr⟩

theorem isOffered_of_mem_slots {s : Slot} (hs : s ∈ (outline v p r n).slots) :
    p.isOffered v = true := by
  cases p with
  | leaf l =>
      cases hl : l.isAvailable v with
      | false => simp [outline, hl] at hs
      | true => exact hl
  | group c o members => rfl

theorem isOffered_of_mem_groups {g : ChoiceGroup} (hg : g ∈ (outline v p r n).groups) :
    p.isOffered v = true := by
  cases p with
  | leaf l => simp [outline] at hg
  | group c o members => rfl

theorem slot_below {s : Slot} (hs : s ∈ (outline v p r n).slots) : r.path <+: s.path :=
  (slot_below_route hs).1

theorem choice_below {g : ChoiceGroup} (hg : g ∈ (outline v p r n).groups) :
    r.path <+: g.place := by
  induction p generalizing r n with
  | leaf l => simp [outline] at hg
  | group c o members ih =>
      rcases mem_groups_group.mp hg with hg | ⟨i, m, hi, hg⟩
      · unfold ownChoice at hg
        split at hg
        · obtain rfl : g = (r.enter o).choice o := by simpa using hg
          exact List.prefix_rfl
        · simp at hg
      · exact (List.prefix_append _ _).trans (ih m (List.mem_of_getElem? hi) hg)

theorem mem_into_of_below {s : Slot} (hs : s ∈ (outline v (.group c o members) r n).slots) {i : Nat}
    {m : Particle} (hi : members[i]? = some m)
    (hp : (intoRoute v c o members r n i).path <+: s.path) :
    s ∈ (intoOutline v c o members r n i m).slots := by
  obtain ⟨j, q, hj, hs⟩ := mem_slots_group.mp hs
  obtain rfl : i = j := Step.toMember_inj (step_unique hp (slot_below hs))
  obtain rfl : m = q := Option.some.inj (hi.symm.trans hj)
  exact hs

/-- The choices of a slot are the choice groups on its path, numbered from `n`. -/
structure Owns (n : Nat) (gs : List ChoiceGroup) (path : Path) (own : List (Nat × Nat)) : Prop where
  ordered : own.Pairwise (fun a b => a.1 < b.1)
  mem_iff : ∀ g a, (g, a) ∈ own ↔
    ∃ j f, gs[j]? = some f ∧ g = n + j ∧ f.place ++ [⟨0, a⟩] <+: path

namespace Owns

variable {gs hs : List ChoiceGroup} {path : Path} {own : List (Nat × Nat)}

theorem append_right (h : Owns n gs path own) (hd : ∀ f ∈ hs, ¬f.place <+: path) :
    Owns n (gs ++ hs) path own := by
  refine ⟨h.ordered, fun g a => ?_⟩
  rw [h.mem_iff]
  constructor
  · rintro ⟨j, f, hj, hg, hp⟩
    have hlt := (List.getElem?_eq_some_iff.mp hj).1
    exact ⟨j, f, by rwa [List.getElem?_append_left hlt], hg, hp⟩
  · rintro ⟨j, f, hj, hg, hp⟩
    rcases Nat.lt_or_ge j gs.length with hlt | hge
    · rw [List.getElem?_append_left hlt] at hj
      exact ⟨j, f, hj, hg, hp⟩
    · rw [List.getElem?_append_right hge] at hj
      exact absurd ((List.prefix_append _ _).trans hp) (hd f (List.mem_of_getElem? hj))

theorem append_left (h : Owns (n + gs.length) hs path own) (hd : ∀ f ∈ gs, ¬f.place <+: path) :
    Owns n (gs ++ hs) path own := by
  refine ⟨h.ordered, fun g a => ?_⟩
  rw [h.mem_iff]
  constructor
  · rintro ⟨j, f, hj, hg, hp⟩
    refine ⟨gs.length + j, f, ?_, by omega, hp⟩
    rwa [List.getElem?_append_right (by omega), Nat.add_sub_cancel_left]
  · rintro ⟨j, f, hj, hg, hp⟩
    rcases Nat.lt_or_ge j gs.length with hlt | hge
    · rw [List.getElem?_append_left hlt] at hj
      exact absurd ((List.prefix_append _ _).trans hp) (hd f (List.mem_of_getElem? hj))
    · rw [List.getElem?_append_right hge] at hj
      exact ⟨j - gs.length, f, hj, by omega, hp⟩

theorem cons {f : ChoiceGroup} {a : Nat} (h : Owns (n + 1) gs path own)
    (hf : f.place ++ [⟨0, a⟩] <+: path) : Owns n (f :: gs) path ((n, a) :: own) := by
  constructor
  · refine List.pairwise_cons.mpr ⟨fun b hb => ?_, h.ordered⟩
    obtain ⟨j, -, -, hg, -⟩ := (h.mem_iff b.1 b.2).mp hb
    dsimp only
    omega
  · intro g b
    rw [List.mem_cons, h.mem_iff]
    constructor
    · rintro (he | ⟨j, f', hj, hg, hp⟩)
      · obtain ⟨rfl, rfl⟩ := Prod.mk.inj he
        exact ⟨0, f, rfl, rfl, hf⟩
      · exact ⟨j + 1, f', hj, by omega, hp⟩
    · rintro ⟨j, f', hj, hg, hp⟩
      cases j with
      | zero =>
          obtain rfl : f = f' := by simpa using hj
          have := step_unique hp hf
          exact .inl (by simp_all)
      | succ j => exact .inr ⟨j, f', hj, by omega, hp⟩

end Owns

theorem choice_below_step {choice : Option Nat} {alone : Bool} {ps : List Particle} {i : Nat}
    {g : ChoiceGroup} (hg : g ∈ (outlineAll v c o choice alone ps i r n).groups) :
    ∃ k, i ≤ k ∧ r.path ++ [Step.toMember c k] <+: g.place := by
  obtain ⟨k, q, -, hg⟩ := (mem_outlineAll (f := Model.groups) rfl groups_append).mp hg
  exact ⟨i + k, Nat.le_add_right _ _, choice_below hg⟩

theorem choices_outlineAll {choice : Option Nat} {alone : Bool} {ps : List Particle}
    (h : ∀ p ∈ ps, ∀ r n s, s ∈ (outline v p r n).slots →
      ∃ own, s.choices = r.choices ++ own ∧ Owns n (outline v p r n).groups s.path own)
    {i : Nat} {s : Slot} (hs : s ∈ (outlineAll v c o choice alone ps i r n).slots) :
    ∃ k own, i ≤ k ∧ r.path ++ [Step.toMember c k] <+: s.path ∧
      s.choices = r.choices ++ (choice.map (fun g => (g, k))).toList ++ own ∧
      Owns n (outlineAll v c o choice alone ps i r n).groups s.path own := by
  induction ps generalizing i n with
  | nil => simp [outlineAll, empty] at hs
  | cons p ps ih =>
      rw [outlineAll, slots_append, List.mem_append] at hs
      rw [outlineAll, groups_append]
      rcases hs with hs | hs
      · obtain ⟨own, hc, ho⟩ := h p (by simp) _ _ s hs
        have hpath := slot_below hs
        refine ⟨i, own, Nat.le_refl i, hpath, hc, ho.append_right fun f hf hp => ?_⟩
        obtain ⟨k, hk, hplace⟩ := choice_below_step hf
        have := Step.toMember_inj (step_unique (hplace.trans hp) hpath)
        omega
      · obtain ⟨k, own, hk, hpath, hc, ho⟩ := ih (fun q hq => h q (by simp [hq])) hs
        refine ⟨k, own, by omega, hpath, hc, ho.append_left fun f hf hp => ?_⟩
        have hplace := choice_below hf
        have := Step.toMember_inj (step_unique (hplace.trans hp) hpath)
        omega

theorem choices_outline {s : Slot} (hs : s ∈ (outline v p r n).slots) :
    ∃ own, s.choices = r.choices ++ own ∧ Owns n (outline v p r n).groups s.path own := by
  induction p generalizing r n s with
  | leaf l =>
      cases hl : l.isAvailable v with
      | false => simp [outline, hl] at hs
      | true =>
          obtain rfl : s = r.slot l := by simpa [outline, hl] using hs
          exact ⟨[], by simp [Route.slot], ⟨.nil, by simp [outline]⟩⟩
  | group c o members ih =>
      rw [outline, slots_append, List.nil_append] at hs
      obtain ⟨k, own, -, hpath, hc, ho⟩ := choices_outlineAll (fun p hp r n s hs => ih p hp hs) hs
      rw [outline, groups_append]
      by_cases hch : Chooses v c members
      · refine ⟨(n, k) :: own, ?_, ?_⟩
        · rw [hc, choiceNumber, if_pos hch]
          simp [Route.enter]
        · simp only [ownChoice, if_pos hch, List.length_singleton, List.singleton_append] at ho ⊢
          refine ho.cons ?_
          simpa [Route.choice, Route.enter, Step.toMember, Compositor.isUnordered, hch.1]
            using hpath
      · refine ⟨own, ?_, ?_⟩
        · rw [hc, choiceNumber, if_neg hch]
          simp [Route.enter]
        · simpa only [ownChoice, if_neg hch, List.length_nil, List.nil_append, Nat.add_zero]
            using ho

theorem lookup_eq_some_iff {cs : List (Nat × Nat)} (h : cs.Pairwise (fun a b => a.1 < b.1))
    (g a : Nat) : cs.lookup g = some a ↔ (g, a) ∈ cs := by
  induction cs with
  | nil => simp
  | cons b cs ih =>
      obtain ⟨hb, hcs⟩ := List.pairwise_cons.mp h
      rw [List.lookup_cons, List.mem_cons]
      by_cases hg : g = b.1
      · have hnot : (g, a) ∉ cs := fun hm => by
          have := hb _ hm
          dsimp only at this
          omega
        obtain ⟨b1, b2⟩ := b
        simp_all [eq_comm]
      · have hne : (g, a) ≠ b := fun he => hg (congrArg Prod.fst he)
        simp [beq_eq_false_iff_ne.mpr hg, ih hcs, hne]

theorem lookup_choices {s : Slot} (hs : s ∈ (outline v p .root 0).slots) {g : Nat} {f : ChoiceGroup}
    (hf : (outline v p .root 0).groups[g]? = some f) (a : Nat) :
    s.choices.lookup g = some a ↔ f.place ++ [⟨0, a⟩] <+: s.path := by
  obtain ⟨own, hc, ho⟩ := choices_outline hs
  obtain rfl : s.choices = own := by simpa [Route.root] using hc
  rw [lookup_eq_some_iff ho.ordered, ho.mem_iff]
  constructor
  · rintro ⟨j, f', hj, hg, hp⟩
    obtain rfl : g = j := by omega
    obtain rfl : f = f' := Option.some.inj (hf.symm.trans hj)
    exact hp
  · exact fun hp => ⟨g, f, hf, by omega, hp⟩

end Model

end OfficeSchema
