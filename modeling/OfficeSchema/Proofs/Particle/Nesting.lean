import OfficeSchema.Proofs.Particle.Coherence

/-!
Nested choices. No two choice groups stand at one place, so that of two around a slot one lies in
the alternative of the other that the slot takes.
-/

namespace OfficeSchema

theorem Occurs.timesMax_ne_zero {a b : Option Nat} (ha : a ≠ some 0) (hb : b ≠ some 0) :
    timesMax a b ≠ some 0 := by
  cases a with
  | none =>
      cases b with
      | none => simp [timesMax]
      | some y => cases y <;> simp_all [timesMax]
  | some x =>
      cases b with
      | none => cases x <;> simp_all [timesMax]
      | some y =>
          have hx : x ≠ 0 := fun h => ha (congrArg some h)
          have hy : y ≠ 0 := fun h => hb (congrArg some h)
          simpa [timesMax] using capMul_ne_zero hx hy

theorem alternative_unique {path place : Path} {a b : Nat} (ha : place ++ [⟨0, a⟩] <+: path)
    (hb : place ++ [⟨0, b⟩] <+: path) : a = b :=
  congrArg Step.alternative (step_unique ha hb)

def Particle.Bounded (p : Particle) : Prop := p.occurs.max ≠ some 0

instance : DecidablePred Particle.Bounded := fun p => inferInstanceAs (Decidable (p.occurs.max ≠ _))

/-- No alternative of a choice that must be made offers all of its kinds. -/
def Particle.Contested (v : Version) : Particle → Prop
  | .group .choice o members => o.min ≠ 0 → ∀ m ∈ members, m.isOffered v = true →
      ∃ q ∈ members, ∃ k ∈ q.offeredKinds v, k ∉ m.offeredKinds v
  | _ => True

instance (v : Version) : DecidablePred (Particle.Contested v)
  | .leaf _ => inferInstanceAs (Decidable True)
  | .group .sequence _ _ => inferInstanceAs (Decidable True)
  | .group .all _ _ => inferInstanceAs (Decidable True)
  | .group .choice o members => inferInstanceAs (Decidable (o.min ≠ 0 → ∀ m ∈ members,
      m.isOffered v = true → ∃ q ∈ members, ∃ k ∈ q.offeredKinds v, k ∉ m.offeredKinds v))

namespace Model

variable {v : Version} {c : Compositor} {o : Occurs} {members : List Particle} {p : Particle}
  {r : Route} {n : Nat}

theorem apart_outlineAll {choice : Option Nat} {alone : Bool} {ps : List Particle}
    (h : ∀ p ∈ ps, ∀ r n, ((outline v p r n).groups.map ChoiceGroup.place).Nodup) (i : Nat)
    (r : Route) (n : Nat) :
    ((outlineAll v c o choice alone ps i r n).groups.map ChoiceGroup.place).Nodup := by
  induction ps generalizing i n with
  | nil => exact .nil
  | cons p ps ih =>
      rw [outlineAll, groups_append, List.map_append, List.nodup_append]
      refine ⟨h p (by simp) _ _, ih (fun q hq => h q (by simp [hq])) _ _, fun x hx y hy hxy => ?_⟩
      obtain ⟨f, hf, rfl⟩ := List.mem_map.mp hx
      obtain ⟨g, hg, rfl⟩ := List.mem_map.mp hy
      obtain ⟨k, hk, hstep⟩ := choice_below_step hg
      have hi := choice_below hf
      rw [hxy] at hi
      have := Step.toMember_inj (step_unique hi hstep)
      omega

theorem apart_outline (v : Version) (p : Particle) (r : Route) (n : Nat) :
    ((outline v p r n).groups.map ChoiceGroup.place).Nodup := by
  induction p generalizing r n with
  | leaf l => simp [outline]
  | group c o members ih =>
      rw [outline, groups_append, List.map_append, List.nodup_append]
      refine ⟨?_, apart_outlineAll ih 0 _ _, fun x hx y hy hxy => ?_⟩
      · unfold ownChoice
        split <;> simp
      · obtain ⟨f, hf, rfl⟩ := List.mem_map.mp hx
        obtain ⟨g, hg, rfl⟩ := List.mem_map.mp hy
        obtain ⟨k, -, hstep⟩ := choice_below_step hg
        have hplace : f.place = r.path := congrArg ChoiceGroup.place (mem_ownChoice.mp hf).2
        have hlen := hstep.length_le
        simp only [← hxy, hplace, Route.enter, List.length_append, List.length_singleton] at hlen
        omega

theorem bounded_outline (hb : p.Everywhere Particle.Bounded) (hr : r.total.max ≠ some 0) :
    ∀ f ∈ (outline v p r n).groups, f.total.max ≠ some 0 := by
  induction p generalizing r n with
  | leaf l => simp [outline]
  | group c o members ih =>
      intro f hf
      obtain ⟨hself, hmembers⟩ := Particle.everywhere_group.mp hb
      have htotal : (r.total.times o).max ≠ some 0 := Occurs.timesMax_ne_zero hr hself
      rcases mem_groups_group.mp hf with hf | ⟨i, m, hi, hf⟩
      · obtain ⟨-, rfl⟩ := mem_ownChoice.mp hf
        exact htotal
      · have hm := List.mem_of_getElem? hi
        exact ih m hm (hmembers m hm) (by rwa [total_intoRoute]) f hf

theorem exists_slot_of_offered {m : Particle} {k : Kind} {i : Nat} (hi : members[i]? = some m)
    (hk : k ∈ m.offeredKinds v) : ∃ s ∈ (outline v (.group c o members) r n).slots,
      s.kind = k ∧ r.path ++ [Step.toMember c i] <+: s.path := by
  have hkinds : k ∈ (intoOutline v c o members r n i m).kinds := by
    rw [intoOutline, kinds_outline]
    exact hk
  obtain ⟨s, hs, rfl⟩ := List.mem_map.mp hkinds
  exact ⟨s, mem_slots_group.mpr ⟨i, m, hi, hs⟩, rfl, slot_below hs⟩

theorem exists_other_member (h : Particle.Contested v (.group .choice o members))
    (ho : o.min ≠ 0) (hch : Chooses v .choice members) (a : Nat) :
    ∃ b q, b ≠ a ∧ members[b]? = some q ∧ ∃ k, k ∈ q.offeredKinds v := by
  obtain ⟨m, hm, hoff⟩ := List.countP_pos_iff.mp hch.2
  by_cases ha : ∃ m, members[a]? = some m ∧ m.isOffered v = true
  · obtain ⟨m, hi, hoff⟩ := ha
    obtain ⟨q, hq, k, hk, hnot⟩ := h ho m (List.mem_of_getElem? hi) hoff
    obtain ⟨b, hb⟩ := List.mem_iff_getElem?.mp hq
    refine ⟨b, q, ?_, hb, k, hk⟩
    rintro rfl
    obtain rfl := Option.some.inj (hi.symm.trans hb)
    exact hnot hk
  · obtain ⟨q, hq, k, hk, -⟩ := h ho m hm hoff
    obtain ⟨b, hb⟩ := List.mem_iff_getElem?.mp hq
    refine ⟨b, q, ?_, hb, k, hk⟩
    rintro rfl
    exact ha ⟨q, hb, Particle.isOffered_of_mem_offeredKinds hk⟩

theorem exists_rival (hp : p.Everywhere (Particle.Contested v)) {f : ChoiceGroup}
    (hf : f ∈ (outline v p r n).groups) (hd : f.presence ≠ .optional) (a : Nat) :
    ∃ b, b ≠ a ∧ ∃ s ∈ (outline v p r n).slots, f.place ++ [⟨0, b⟩] <+: s.path := by
  induction p generalizing r n with
  | leaf l => simp [outline] at hf
  | group c o members ih =>
      obtain ⟨hself, hmembers⟩ := Particle.everywhere_group.mp hp
      rcases mem_groups_group.mp hf with hown | ⟨i, m, hi, hf⟩
      · obtain ⟨hch, rfl⟩ := mem_ownChoice.mp hown
        obtain rfl : c = .choice := hch.1
        have ho : o.min ≠ 0 := fun h => hd (Presence.of_eq_optional_iff.mpr h)
        obtain ⟨b, q, hne, hb, k, hk⟩ := exists_other_member hself ho hch a
        obtain ⟨s, hs, -, hpath⟩ := exists_slot_of_offered hb hk
        exact ⟨b, hne, s, hs, hpath⟩
      · have hm := List.mem_of_getElem? hi
        obtain ⟨b, hne, s, hs, hpath⟩ := ih m hm (hmembers m hm) hf
        exact ⟨b, hne, s, mem_slots_group.mpr ⟨i, m, hi, hs⟩, hpath⟩

structure Nested (m : Model) : Prop where
  regular : m.Regular
  apart : (m.groups.map ChoiceGroup.place).Nodup
  chosen : ∀ s ∈ m.slots, ∀ g (f : ChoiceGroup), m.groups[g]? = some f → ∀ a,
    s.choices.lookup g = some a ↔ f.place ++ [⟨0, a⟩] <+: s.path
  listed : ∀ g (f : ChoiceGroup), m.groups[g]? = some f →
    f.kinds = (m.slots.filter (fun s => (s.choices.lookup g).isSome)).map Slot.kind

theorem nested_ofParticle (v : Version) (p : Particle) : (ofParticle v p).Nested := by
  refine ⟨regular_ofParticle v p, ?_, fun s hs g f hf a => ?_, (enrolled_ofParticle v p).listed⟩
  · have hplaces : (ofParticle v p).groups.map ChoiceGroup.place =
        (outline v p .root 0).groups.map ChoiceGroup.place := by
      rw [← ofParticle_groups, List.map_map]
      rfl
    rw [hplaces]
    exact apart_outline v p .root 0
  · have hbare : (outline v p .root 0).groups[g]? = some f.bare := by
      rw [groups_getElem?_bare, hf, Option.map_some]
    exact lookup_choices (mem_outline_of_mem_slots hs) hbare a

theorem bounded_ofParticle (hb : p.Everywhere Particle.Bounded) :
    ∀ f ∈ (ofParticle v p).groups, f.total.max ≠ some 0 := by
  intro f hf
  have hbare : f.bare ∈ (outline v p .root 0).groups := by
    rw [← ofParticle_groups]
    exact List.mem_map_of_mem hf
  exact bounded_outline (r := .root) hb (by decide) f.bare hbare

namespace Nested

variable {m : Model} {f f' : ChoiceGroup} {g g' a a' : Nat} {s t : Slot}

theorem kind_mem_iff (hm : m.Nested) (hf : m.groups[g]? = some f) (hs : s ∈ m.slots) :
    s.kind ∈ f.kinds ↔ ∃ a, f.place ++ [⟨0, a⟩] <+: s.path := by
  rw [hm.listed g f hf, List.mem_map]
  constructor
  · rintro ⟨t, ht, hk⟩
    obtain ⟨ht, hsome⟩ := List.mem_filter.mp ht
    obtain rfl := eq_of_kind_eq hm.regular ht hs hk
    obtain ⟨a, ha⟩ := Option.isSome_iff_exists.mp hsome
    exact ⟨a, (hm.chosen t ht g f hf a).mp ha⟩
  · rintro ⟨a, ha⟩
    have hlookup := (hm.chosen s hs g f hf a).mpr ha
    exact ⟨s, List.mem_filter.mpr ⟨hs, by simp [hlookup]⟩, rfl⟩

theorem place_ne (hm : m.Nested) (hf : m.groups[g]? = some f) (hf' : m.groups[g']? = some f')
    (hne : g ≠ g') : f.place ≠ f'.place := by
  intro h
  have hlen : g < (m.groups.map ChoiceGroup.place).length := by
    rw [List.length_map]
    exact (List.getElem?_eq_some_iff.mp hf).1
  exact hne ((List.getElem?_inj hlen hm.apart).mp (by simp [hf, hf', h]))

theorem inside_or_inside (hm : m.Nested) (hf : m.groups[g]? = some f)
    (hf' : m.groups[g']? = some f') (hne : g ≠ g') (ha : f.place ++ [⟨0, a⟩] <+: s.path)
    (ha' : f'.place ++ [⟨0, a'⟩] <+: s.path) :
    f.place ++ [⟨0, a⟩] <+: f'.place ∨ f'.place ++ [⟨0, a'⟩] <+: f.place := by
  have hplace := (List.prefix_append _ _).trans ha
  have hplace' := (List.prefix_append _ _).trans ha'
  rcases Nat.lt_trichotomy f.place.length f'.place.length with hlt | heq | hgt
  · exact .inl (List.prefix_of_prefix_length_le ha hplace' (by simpa using Nat.succ_le_of_lt hlt))
  · have hsame := (List.prefix_of_prefix_length_le hplace hplace' heq.le).eq_of_length heq
    exact absurd hsame (hm.place_ne hf hf' hne)
  · exact .inr (List.prefix_of_prefix_length_le ha' hplace (by simpa using Nat.succ_le_of_lt hgt))

theorem kinds_sublist (hm : m.Nested) (hf : m.groups[g]? = some f)
    (hf' : m.groups[g']? = some f') (h : f.place ++ [⟨0, a⟩] <+: f'.place) :
    f'.kinds.Sublist f.kinds := by
  have hsub : m.slots.filter (fun s => (s.choices.lookup g').isSome) =
      (m.slots.filter (fun s => (s.choices.lookup g).isSome)).filter
        (fun s => (s.choices.lookup g').isSome) := by
    rw [List.filter_filter]
    apply List.filter_congr
    intro s hs
    rw [Bool.eq_iff_iff, Bool.and_eq_true]
    refine ⟨fun hsome => ⟨hsome, ?_⟩, And.left⟩
    obtain ⟨b, hb⟩ := Option.isSome_iff_exists.mp hsome
    have hpath := (hm.chosen s hs g' f' hf' b).mp hb
    have hin := (h.trans (List.prefix_append _ _)).trans hpath
    rw [(hm.chosen s hs g f hf a).mpr hin]
    rfl
  rw [hm.listed g f hf, hm.listed g' f' hf', hsub]
  exact List.filter_sublist.map _

end Nested

end Model

end OfficeSchema
