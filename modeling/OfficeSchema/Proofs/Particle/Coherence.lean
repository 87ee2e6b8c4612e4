import OfficeSchema.Proofs.Particle.Order
import OfficeSchema.Proofs.Particle.Walking

namespace OfficeSchema

namespace Presence

variable {min n : Nat} {anchor : Option Nat}

theorem of_eq_optional_iff : Presence.of min anchor = .optional ↔ min = 0 := by
  unfold Presence.of
  split
  · next h => simp [h]
  · next h => cases anchor <;> simp [h]

theorem of_eq_required_iff : Presence.of min anchor = .required ↔ min ≠ 0 ∧ anchor = none := by
  unfold Presence.of
  split
  · next h => simp [h]
  · next h => cases anchor <;> simp [h]

theorem of_eq_within_iff : Presence.of min anchor = .within n ↔ min ≠ 0 ∧ anchor = some n := by
  unfold Presence.of
  split
  · next h => simp [h]
  · next h => cases anchor <;> simp [h]

end Presence

/-- A route remembers one bound a step, its anchor lies on its way, and without an anchor its factor
is the least count multiplied along it. -/
structure Route.Sound (r : Route) : Prop where
  steps : r.repeatable.length = r.path.length
  anchor : ∀ n, r.anchor = some n → n ≤ r.path.length
  factor : r.anchor = none → r.factor = r.total.min ∧ r.total.min ≠ 0

namespace Route

variable {r : Route}

theorem sound_root : root.Sound := ⟨rfl, by simp [root], fun _ => ⟨rfl, Nat.one_ne_zero⟩⟩

theorem Sound.enter (h : r.Sound) (o : Occurs) : (r.enter o).Sound := by
  refine ⟨h.steps, fun n hn => ?_, fun hn => ?_⟩
  · simp only [Route.enter] at hn ⊢
    split at hn
    · obtain rfl := Option.some.inj hn
      exact Nat.le_refl _
    · exact h.anchor n hn
  · simp only [Route.enter] at hn ⊢
    split at hn
    · simp at hn
    · next ho =>
        obtain ⟨hf, ht⟩ := h.factor hn
        rw [if_neg ho, Occurs.times_min, hf]
        exact ⟨rfl, capMul_ne_zero ht ho⟩

theorem Sound.member (h : r.Sound) (c : Compositor) (o : Occurs) (choice : Option Nat)
    (alone : Bool) (i : Nat) : (r.member c o choice alone i).Sound := by
  refine ⟨by simp [Route.member, h.steps], fun n hn => ?_, fun hn => ?_⟩
  · simp only [Route.member, List.length_append, List.length_singleton] at hn ⊢
    split at hn
    · obtain rfl := Option.some.inj hn
      exact Nat.le_refl _
    · exact Nat.le_succ_of_le (h.anchor n hn)
  · simp only [Route.member] at hn ⊢
    split at hn
    · simp at hn
    · next hfree =>
        rw [if_neg hfree]
        exact h.factor hn

end Route

namespace Model

variable {v : Version} {c : Compositor} {o : Occurs} {p : Particle} {r : Route} {n : Nat}

theorem exists_route_of_mem_slots {s : Slot} (hr : r.Sound) (hs : s ∈ (outline v p r n).slots) :
    ∃ (q : Route) (l : Leaf), q.Sound ∧ s = q.slot l := by
  induction p generalizing r n with
  | leaf l =>
      cases hl : l.isAvailable v with
      | false => simp [outline, hl] at hs
      | true => exact ⟨r, l, hr, by simpa [outline, hl] using hs⟩
  | group c o members ih =>
      obtain ⟨i, m, hi, hs⟩ := mem_slots_group.mp hs
      exact ih m (List.mem_of_getElem? hi) ((hr.enter o).member _ _ _ _ _) hs

theorem exists_route_of_mem_groups {f : ChoiceGroup} (hr : r.Sound)
    (hf : f ∈ (outline v p r n).groups) : ∃ (q : Route) (o : Occurs), q.Sound ∧ f = q.choice o := by
  induction p generalizing r n with
  | leaf l => simp [outline] at hf
  | group c o members ih =>
      rcases mem_groups_group.mp hf with hf | ⟨i, m, hi, hf⟩
      · unfold ownChoice at hf
        split at hf
        · exact ⟨r.enter o, o, hr.enter o, by simpa using hf⟩
        · simp at hf
      · exact ih m (List.mem_of_getElem? hi) ((hr.enter o).member _ _ _ _ _) hf

/-- The choices of all slots are choice groups, and each choice group lists the slots that have it
among their choices. -/
structure Enrolled (m : Model) : Prop where
  ranged : ∀ s ∈ m.slots, ∀ c ∈ s.choices, c.1 < m.groups.length
  listed : ∀ g (f : ChoiceGroup), m.groups[g]? = some f →
    f.kinds = (m.slots.filter (fun s => (s.choices.lookup g).isSome)).map Slot.kind

structure Numbered (m : Model) (cs : List (Nat × Nat)) : Prop where
  ordered : cs.Pairwise (fun a b => a.1 < b.1)
  ranged : ∀ c ∈ cs, c.1 < m.groups.length

theorem lookup_eq_none_of_ne {cs : List (Nat × Nat)} {g : Nat} (h : ∀ c ∈ cs, c.1 ≠ g) :
    cs.lookup g = none := by
  rw [List.lookup_eq_none_iff]
  intro c hc
  simpa using (h c hc).symm

theorem getElem?_enrol {k : Kind} {cs : List (Nat × Nat)}
    (h : cs.Pairwise (fun a b => a.1 < b.1)) (gs : List ChoiceGroup) (g : Nat) :
    (enrol k cs gs)[g]? = gs[g]?.map (fun f =>
      if (cs.lookup g).isSome then { f with kinds := f.kinds ++ [k] } else f) := by
  induction cs generalizing gs with
  | nil => simp [enrol]
  | cons c cs ih =>
      obtain ⟨c, a⟩ := c
      obtain ⟨hc, hcs⟩ := List.pairwise_cons.mp h
      rw [enrol, ih hcs, List.getElem?_modify, List.lookup_cons]
      by_cases hg : c = g
      · have hnone : cs.lookup g = none :=
          lookup_eq_none_of_ne fun b hb he => absurd (hc b hb) (by simp [hg, he])
        cases gs[g]? <;> simp [hg, hnone]
      · rw [beq_eq_false_iff_ne.mpr (Ne.symm hg)]
        cases gs[g]? <;> simp [hg]

theorem length_enrol (k : Kind) (cs : List (Nat × Nat)) (gs : List ChoiceGroup) :
    (enrol k cs gs).length = gs.length := by
  simpa using congrArg List.length (bare_enrol k cs gs)

variable {m : Model}

theorem Enrolled.empty : Enrolled .empty := ⟨by simp [Model.empty], by simp [Model.empty]⟩

theorem Enrolled.addLeaf (hm : m.Enrolled) (hr : m.Numbered r.choices) (l : Leaf) :
    (m.addLeaf r l).Enrolled := by
  constructor
  · intro s hs c hc
    simp only [Model.addLeaf, List.mem_append, List.mem_singleton] at hs
    rw [Model.addLeaf, length_enrol]
    rcases hs with hs | rfl
    · exact hm.ranged s hs c hc
    · exact hr.ranged c hc
  · intro g f hf
    simp only [Model.addLeaf, getElem?_enrol hr.ordered, Option.map_eq_some_iff] at hf
    obtain ⟨f, hf, rfl⟩ := hf
    rw [Model.addLeaf, List.filter_append, List.map_append, ← hm.listed g f hf]
    cases hg : r.choices.lookup g <;> simp [hg]

theorem Enrolled.addChoice (hm : m.Enrolled) (r : Route) (o : Occurs) :
    (m.addChoice r o).Enrolled := by
  constructor
  · intro s hs c hc
    simp only [Model.addChoice, List.length_append, List.length_singleton]
    exact Nat.lt_succ_of_lt (hm.ranged s hs c hc)
  · intro g f hf
    simp only [Model.addChoice] at hf ⊢
    rcases Nat.lt_trichotomy g m.groups.length with hlt | rfl | hgt
    · rw [List.getElem?_append_left hlt] at hf
      exact hm.listed g f hf
    · obtain rfl : ⟨r.path, r.total, .of o.min r.anchor, []⟩ = f := by simpa using hf
      -- no slot can have a choice group that was not there
      have hnone : m.slots.filter (fun s => (s.choices.lookup m.groups.length).isSome) = [] := by
        rw [List.filter_eq_nil_iff]
        intro s hs
        simp [lookup_eq_none_of_ne fun c hc => (hm.ranged s hs c hc).ne]
      simp [hnone]
    · rw [List.getElem?_eq_none (by simp; omega)] at hf
      simp at hf

theorem Numbered.grow {m n d : Model} {cs : List (Nat × Nat)} (h : m.Numbered cs)
    (hg : Grows m n d) : n.Numbered cs :=
  ⟨h.ordered, fun c hc => by
    have := h.ranged c hc
    have := hg.length_groups
    omega⟩

theorem Numbered.concat {cs : List (Nat × Nat)} {g : Nat} (h : m.Numbered cs)
    (hlow : ∀ c ∈ cs, c.1 < g) (hg : g < m.groups.length) (a : Nat) :
    m.Numbered (cs ++ [(g, a)]) := by
  constructor
  · rw [List.pairwise_append]
    refine ⟨h.ordered, List.pairwise_singleton _ _, fun b hb c hc => ?_⟩
    obtain rfl := List.mem_singleton.mp hc
    exact hlow b hb
  · intro c hc
    rcases List.mem_append.mp hc with hc | hc
    · exact h.ranged c hc
    · obtain rfl := List.mem_singleton.mp hc
      exact hg

theorem visitAll_enrolled {choice : Option Nat} {alone : Bool} {ps : List Particle}
    (h : ∀ p ∈ ps, ∀ r m, m.Enrolled → m.Numbered r.choices → (visit v p r m).Enrolled)
    (i : Nat) (hm : m.Enrolled) (hr : ∀ i, m.Numbered (r.member c o choice alone i).choices) :
    (visitAll v c o choice alone ps i r m).Enrolled := by
  induction ps generalizing i m with
  | nil => exact hm
  | cons p ps ih =>
      refine ih (fun q hq => h q (by simp [hq])) (i + 1) (h p (by simp) _ _ hm (hr i)) fun j => ?_
      exact (hr j).grow (visit_grows v p _ m)

theorem visit_enrolled (hm : m.Enrolled) (hr : m.Numbered r.choices) :
    (visit v p r m).Enrolled := by
  induction p generalizing r m with
  | leaf l =>
      rw [visit]
      split
      · exact hm.addLeaf hr l
      · exact hm
  | group c o members ih =>
      rw [visit]
      split
      · refine visitAll_enrolled (fun p hp r m hm hr => ih p hp hm hr) 0
          (hm.addChoice _ o) fun i => ?_
        refine Numbered.concat (hr.grow (addChoice_grows m r o)) hr.ranged ?_ i
        simp [Model.addChoice]
      · refine visitAll_enrolled (fun p hp r m hm hr => ih p hp hm hr) 0 hm fun i => ?_
        simpa [Route.member, Route.enter] using hr

theorem enrolled_ofParticle (v : Version) (p : Particle) : (ofParticle v p).Enrolled :=
  visit_enrolled .empty ⟨.nil, by simp [Route.root]⟩

/-- A slot of a coherent model: its choices are the choice groups that list it, each at the place
where the path of the slot turns into the alternative taken. -/
structure Fits (m : Model) (s : Slot) : Prop where
  steps : s.repeatable.length = s.path.length
  ordered : s.choices.Pairwise (fun a b => a.1 < b.1)
  chosen : ∀ g a, (g, a) ∈ s.choices →
    ∃ f, m.groups[g]? = some f ∧ f.place ++ [⟨0, a⟩] <+: s.path
  listed : ∀ g (f : ChoiceGroup), m.groups[g]? = some f →
    (s.kind ∈ f.kinds ↔ ∃ a, (g, a) ∈ s.choices)
  within : ∀ n, s.presence = .within n → n ≤ s.path.length
  optional : s.presence = .optional ↔ s.occurs.min = 0
  required : s.presence = .required → s.minCount = s.total.min ∧ 1 ≤ s.total.min

structure Coherent (m : Model) : Prop where
  parallel : m.lookup.length = m.slots.length
  indexed : ∀ k i, m.indexOf? k = some i ↔ (m.lookup[i]?).map Prod.fst = some k
  apart : m.lookup.Pairwise (fun a b => ¬a.2 <+: b.2 ∧ ¬b.2 <+: a.2)
  slots : ∀ s ∈ m.slots, m.Fits s
  groups : ∀ f ∈ m.groups, ∀ n, f.presence = .within n → n ≤ f.place.length

theorem lookup_getElem? (m : Model) (i : Nat) :
    (m.lookup[i]?).map Prod.fst = (m.slots[i]?).map Slot.kind := by
  rw [lookup, List.getElem?_map, Option.map_map]
  rfl

theorem indexOf?_eq_some_iff (hm : m.Regular) (k : Kind) (i : Nat) :
    m.indexOf? k = some i ↔ (m.slots[i]?).map Slot.kind = some k := by
  rw [← position?_eq]
  constructor
  · intro h
    obtain ⟨s, hs, rfl, -⟩ := exists_slot_of_position h
    rw [hs, Option.map_some]
  · intro h
    obtain ⟨s, hs, rfl⟩ := Option.map_eq_some_iff.mp h
    have hmem : m.contains s.kind = true := by
      rw [contains_eq, decide_eq_true_eq]
      exact List.mem_map_of_mem (List.mem_of_getElem? hs)
    obtain ⟨j, hj⟩ := exists_position_iff.mpr hmem
    obtain ⟨t, ht, hts, -⟩ := exists_slot_of_position hj
    obtain ⟨hlt, -⟩ := List.getElem?_eq_some_iff.mp hs
    have hkinds : m.kinds[i]? = m.kinds[j]? := by simp [kinds, hs, ht, hts]
    have hik : i < m.kinds.length := by simpa [kinds] using hlt
    rw [hj, (List.getElem?_inj hik hm.nodup).mp hkinds]

theorem isSome_lookup_iff {cs : List (Nat × Nat)} (h : cs.Pairwise (fun a b => a.1 < b.1))
    (g : Nat) : (cs.lookup g).isSome = true ↔ ∃ a, (g, a) ∈ cs := by
  rw [Option.isSome_iff_exists]
  exact exists_congr (lookup_eq_some_iff h g)

theorem mem_outline_of_mem_slots {s : Slot} (hs : s ∈ (ofParticle v p).slots) :
    s ∈ (outline v p .root 0).slots := by
  rw [ofParticle_slots] at hs
  exact (fresh_sublist _ _).subset hs

theorem fits_ofParticle {s : Slot} (hs : s ∈ (ofParticle v p).slots) :
    (ofParticle v p).Fits s := by
  have hm := regular_ofParticle v p
  have hord := hm.ordered s hs
  have hout := mem_outline_of_mem_slots hs
  obtain ⟨own, hown, ho⟩ := choices_outline hout
  obtain rfl : s.choices = own := by simpa [Route.root] using hown
  obtain ⟨r, l, hr, rfl⟩ := exists_route_of_mem_slots Route.sound_root hout
  refine ⟨hr.steps, hord, fun g a h => ?_, fun g f hf => ?_, fun n hn => ?_,
    Presence.of_eq_optional_iff, fun h => ?_⟩
  · obtain ⟨j, f, hj, hg, hp⟩ := (ho.mem_iff g a).mp h
    obtain rfl : g = j := by omega
    rw [← ofParticle_groups, List.getElem?_map, Option.map_eq_some_iff] at hj
    obtain ⟨full, hfull, rfl⟩ := hj
    exact ⟨full, hfull, hp⟩
  · rw [(enrolled_ofParticle v p).listed g f hf, List.mem_map, ← isSome_lookup_iff hord]
    constructor
    · rintro ⟨t, ht, hk⟩
      obtain ⟨ht, hg⟩ := List.mem_filter.mp ht
      exact eq_of_kind_eq hm ht hs hk ▸ hg
    · exact fun hg => ⟨_, List.mem_filter.mpr ⟨hs, hg⟩, rfl⟩
  · exact hr.anchor n (Presence.of_eq_within_iff.mp hn).2
  · obtain ⟨hmin, hanchor⟩ := Presence.of_eq_required_iff.mp h
    obtain ⟨hfactor, htotal⟩ := hr.factor hanchor
    simp only [Route.slot, hfactor, Occurs.times_min, true_and]
    exact Nat.one_le_iff_ne_zero.mpr (capMul_ne_zero htotal hmin)

theorem coherent_ofParticle (v : Version) (p : Particle) : (ofParticle v p).Coherent := by
  refine ⟨by simp [lookup], fun k i => ?_, ?_, fun s hs => fits_ofParticle hs, fun f hf n hn => ?_⟩
  · rw [lookup_getElem?]
    exact indexOf?_eq_some_iff (regular_ofParticle v p) k i
  · rw [lookup, List.pairwise_map]
    exact (forks_slots v p).imp Path.Forks.not_prefix
  · have hbare : f.bare ∈ (outline v p .root 0).groups := by
      rw [← ofParticle_groups]
      exact List.mem_map_of_mem hf
    obtain ⟨r, o, hr, he⟩ := exists_route_of_mem_groups Route.sound_root hbare
    have hplace : f.place = r.path := congrArg ChoiceGroup.place he
    have hpresence : f.presence = .of o.min r.anchor := congrArg ChoiceGroup.presence he
    rw [hpresence, Presence.of_eq_within_iff] at hn
    exact hplace ▸ hr.anchor n hn.2

theorem indexed_of_mirrors {x : Columns} (hx : x.Mirrors m) (hm : m.Coherent) (k : Kind) (i : Nat) :
    x.index[k]? = some i ↔ (x.lookup[i]?).map Prod.fst = some k := by
  rw [hx.index, hx.lookup]
  exact hm.indexed k i

/-- A compiled model is coherent, and the columns that a walk leaves behind are its slots, its
choice groups and its numbers. Whatever the children, every number that leads from them to a slot
or to a choice group is in range. -/
theorem ofParticle_coherent_in_range (v : Version) (p : Particle) :
    (ofParticle v p).Coherent ∧
    (let x := Columns.compile v p
     x.Mirrors (ofParticle v p) ∧ x.lookup.length = x.data.length ∧
      ∀ (k : Kind) (i : Nat), x.index[k]? = some i ↔ (x.lookup[i]?).map Prod.fst = some k) ∧
    ∀ (children : List Element), ∀ s ∈ (ofParticle v p).filledBy children,
      (∃ i, (ofParticle v p).indexOf? s.kind = some i ∧ (ofParticle v p).slots[i]? = some s ∧
        (ofParticle v p).lookup[i]? = some (s.kind, s.path)) ∧
        ∀ c ∈ s.choices, ∃ f, (ofParticle v p).groups[c.1]? = some f := by
  have hcoherent := coherent_ofParticle v p
  have hx := Columns.mirrors_compile v p
  refine ⟨hcoherent, ⟨hx, hx.parallel, indexed_of_mirrors hx hcoherent⟩, fun children s hs => ?_⟩
  have hmem := mem_slots_of_mem_filledBy hs
  refine ⟨?_, fun c hc => ?_⟩
  · obtain ⟨i, hi⟩ := List.mem_iff_getElem?.mp hmem
    refine ⟨i, ?_, hi, ?_⟩
    · rw [indexOf?_eq_some_iff (regular_ofParticle v p), hi, Option.map_some]
    · rw [lookup, List.getElem?_map, hi, Option.map_some]
  · obtain ⟨f, hf, -⟩ := (fits_ofParticle hmem).chosen c.1 c.2 hc
    exact ⟨f, hf⟩

end Model

end OfficeSchema
