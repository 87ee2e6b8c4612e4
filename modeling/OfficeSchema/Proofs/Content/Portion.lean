import OfficeSchema.Proofs.Content.Verdict
import OfficeSchema.Proofs.Particle.Projection

/-!
The portion of the filled slots that lies below a place. A particle stands in a content when all
slots below its route are its own; then the portions of the members of a group are told apart by
their kinds.
-/

namespace OfficeSchema.Model

variable {v : Version} {F : List Slot} {p : Particle} {c : Compositor} {o : Occurs}
  {members : List Particle} {r : Route} {n : Nat}

def under (path : Path) (F : List Slot) : List Slot := F.filter (fun s => path.isPrefixOf s.path)

theorem mem_under {path : Path} {s : Slot} : s ∈ under path F ↔ s ∈ F ∧ path <+: s.path := by
  simp [under]

theorem under_nil (F : List Slot) : under [] F = F := by
  simp [under]

def spelled (path : Path) (F : List Slot) : List Kind := (under path F).map Slot.kind

def Surrounded (F : List Slot) (path : Path) : Option Nat → Prop
  | none => True
  | some steps => ∃ s ∈ F, s.path.sharesPrefix path steps = true

theorem isDemanded_of (F : List Slot) (path : Path) (min : Nat) (anchor : Option Nat) :
    (Progress.after F).isDemanded path (.of min anchor) = true ↔
      min ≠ 0 ∧ Surrounded F path anchor := by
  unfold Presence.of
  split
  · next h => simp [Progress.isDemanded, h]
  · next h =>
      cases anchor with
      | none => simp [Progress.isDemanded, h, Surrounded]
      | some steps => simp [Progress.isDemanded, Progress.reaches, Progress.after, h, Surrounded]

theorem surrounded_length (F : List Slot) (path : Path) :
    Surrounded F path (some path.length) ↔ under path F ≠ [] := by
  simp only [Surrounded, Path.sharesPrefix_length, ne_eq, ← List.isEmpty_iff, Bool.not_eq_true,
    List.isEmpty_eq_false_iff_exists_mem, mem_under]

theorem surrounded_above {path place : Path} {anchor : Option Nat} (h : place <+: path)
    (ha : ∀ k, anchor = some k → k ≤ place.length) :
    Surrounded F path anchor ↔ Surrounded F place anchor := by
  cases anchor with
  | none => exact Iff.rfl
  | some k =>
      simp only [Surrounded, Path.sharesPrefix_of_isPrefix h (ha k rfl)]

theorem surrounded_of_mem {path : Path} {anchor : Option Nat} (h : under path F ≠ [])
    (ha : ∀ k, anchor = some k → k ≤ path.length) : Surrounded F path anchor := by
  cases anchor with
  | none => trivial
  | some k =>
      obtain ⟨s, hs⟩ := List.exists_mem_of_ne_nil _ h
      obtain ⟨hF, hbelow⟩ := mem_under.mp hs
      have hshares := (Path.sharesPrefix_length s.path path).mpr hbelow
      exact ⟨s, hF, Path.sharesPrefix_mono hshares (ha k rfl)⟩

/-- A particle, entered by a route with `n` choice groups before it, stands in a content: what is
filled below the route is filled by its own slots. -/
structure Stands (v : Version) (F : List Slot) (p : Particle) (r : Route) (n : Nat) : Prop where
  covers : ∀ s ∈ under r.path F, s ∈ (outline v p r n).slots
  below : ∀ s ∈ F, s.kind ∈ p.offeredKinds v → r.path <+: s.path
  nodup : (p.offeredKinds v).Nodup
  steps : r.repeatable.length = r.path.length
  anchor : ∀ k, r.anchor = some k → k ≤ r.path.length

namespace Stands

theorem enter_anchor (h : Stands v F p r n) (o : Occurs) :
    ∀ k, (r.enter o).anchor = some k → k ≤ r.path.length := by
  intro k hk
  rw [Route.enter] at hk
  split at hk
  · obtain rfl := Option.some.inj hk
    exact Nat.le_refl _
  · exact h.anchor k hk

theorem kind_mem (h : Stands v F p r n) {s : Slot} (hs : s ∈ under r.path F) :
    s.kind ∈ p.offeredKinds v := by
  rw [← kinds_outline v p r n]
  exact List.mem_map_of_mem (h.covers s hs)

theorem nodup_member (h : Stands v F (.group c o members) r n) {i : Nat} {m : Particle}
    (hi : members[i]? = some m) : (m.offeredKinds v).Nodup := by
  have hnodup := h.nodup
  rw [Particle.offeredKinds_group, Particle.kindsOf_restrictAll, List.nodup_flatMap] at hnodup
  exact hnodup.1 m (List.mem_of_getElem? hi)

theorem index_eq (h : Stands v F (.group c o members) r n) {i j : Nat} {a b : Particle}
    (hi : members[i]? = some a) (hj : members[j]? = some b) {k : Kind}
    (ha : k ∈ a.offeredKinds v) (hb : k ∈ b.offeredKinds v) : i = j := by
  have hnodup := h.nodup
  rw [Particle.offeredKinds_group, Particle.kindsOf_restrictAll, List.nodup_flatMap] at hnodup
  have hpair := List.pairwise_iff_getElem.mp hnodup.2
  obtain ⟨hil, rfl⟩ := List.getElem?_eq_some_iff.mp hi
  obtain ⟨hjl, rfl⟩ := List.getElem?_eq_some_iff.mp hj
  rcases Nat.lt_trichotomy i j with hlt | heq | hgt
  · exact absurd hb (hpair i j hil hjl hlt ha)
  · exact heq
  · exact absurd ha (hpair j i hjl hil hgt hb)

theorem exists_member (h : Stands v F (.group c o members) r n) {s : Slot}
    (hs : s ∈ under r.path F) : ∃ i m, members[i]? = some m ∧ s.kind ∈ m.offeredKinds v ∧
      s ∈ under (intoRoute v c o members r n i).path F := by
  obtain ⟨i, m, hi, hm⟩ := mem_slots_group.mp (h.covers s hs)
  refine ⟨i, m, hi, ?_, mem_under.mpr ⟨(mem_under.mp hs).1, slot_below hm⟩⟩
  rw [← kinds_outline v m (intoRoute v c o members r n i) (intoCount v c o members r n i)]
  exact List.mem_map_of_mem hm

theorem member (h : Stands v F (.group c o members) r n) {i : Nat} {m : Particle}
    (hi : members[i]? = some m) :
    Stands v F m (intoRoute v c o members r n i) (intoCount v c o members r n i) := by
  refine ⟨fun s hs => ?_, fun s hs hk => ?_, h.nodup_member hi, ?_, fun k hk => ?_⟩
  · obtain ⟨hF, hp⟩ := mem_under.mp hs
    have hr : r.path <+: s.path := (List.prefix_append _ _).trans hp
    exact mem_into_of_below (h.covers s (mem_under.mpr ⟨hF, hr⟩)) hi hp
  · have hgroup : s.kind ∈ (Particle.group c o members).offeredKinds v := by
      rw [Particle.offeredKinds_group, Particle.kindsOf_restrictAll]
      exact List.mem_flatMap.mpr ⟨m, List.mem_of_getElem? hi, hk⟩
    obtain ⟨j, q, hj, hkq, hq⟩ := h.exists_member (mem_under.mpr ⟨hs, h.below s hs hgroup⟩)
    obtain rfl := h.index_eq hi hj hk hkq
    exact (mem_under.mp hq).2
  · rw [repeatable_intoRoute, path_intoRoute, List.length_append, List.length_append, h.steps]
    rfl
  · rw [path_intoRoute, List.length_append, List.length_singleton]
    have henter := h.enter_anchor o
    simp only [intoRoute, Route.member] at hk
    split at hk
    · obtain rfl := Option.some.inj hk
      simp [Route.enter]
    · exact Nat.le_succ_of_le (henter k hk)

theorem mem_under_member (h : Stands v F (.group c o members) r n) {i : Nat} {m : Particle}
    (hi : members[i]? = some m) {s : Slot} :
    s ∈ under (intoRoute v c o members r n i).path F ↔
      s ∈ under r.path F ∧ s.kind ∈ m.offeredKinds v := by
  constructor
  · intro hs
    obtain ⟨hF, hp⟩ := mem_under.mp hs
    exact ⟨mem_under.mpr ⟨hF, (List.prefix_append _ _).trans hp⟩, (h.member hi).kind_mem hs⟩
  · rintro ⟨hs, hk⟩
    exact mem_under.mpr ⟨(mem_under.mp hs).1, (h.member hi).below s (mem_under.mp hs).1 hk⟩

theorem under_member (h : Stands v F (.group c o members) r n) {i : Nat} {m : Particle}
    (hi : members[i]? = some m) :
    under (intoRoute v c o members r n i).path F =
      (under r.path F).filter (fun s => s.kind ∈ m.offeredKinds v) := by
  rw [under, under, List.filter_filter]
  apply List.filter_congr
  intro s hs
  have hmem := h.mem_under_member hi (s := s)
  simp only [mem_under, hs, true_and] at hmem
  rw [Bool.eq_iff_iff, Bool.and_eq_true, decide_eq_true_eq, List.isPrefixOf_iff_prefix,
    List.isPrefixOf_iff_prefix, hmem, and_comm]

theorem spelled_member (h : Stands v F (.group c o members) r n) {i : Nat} {m : Particle}
    (hi : members[i]? = some m) :
    spelled (intoRoute v c o members r n i).path F =
      (spelled r.path F).filter (fun k => k ∈ m.offeredKinds v) := by
  rw [spelled, spelled, h.under_member hi, List.filter_map]
  rfl

theorem repeatable_take (h : Stands v F (.group c o members) r n) {i : Nat} {m : Particle}
    (hi : members[i]? = some m) {s : Slot}
    (hs : s ∈ under (intoRoute v c o members r n i).path F) :
    s.repeatable.take (r.path.length + 1) = r.repeatable ++ [o.isRepeatable] := by
  obtain ⟨rest, hrest⟩ := (slot_below_route ((h.member hi).covers s hs)).2
  rw [← hrest, repeatable_intoRoute]
  exact List.take_left' (by simp [h.steps])

theorem eq_slot {l : Leaf} (h : Stands v F (.leaf l) r n) {s : Slot} (hs : s ∈ under r.path F) :
    s = r.slot l := by
  have hmem := h.covers s hs
  simp only [outline] at hmem
  split at hmem
  · simpa using hmem
  · simp at hmem

theorem leaf_pairwise {l : Leaf} (h : Stands v F (.leaf l) r n) :
    (under r.path F).Pairwise (fun a b => b.precedes a = false) := by
  apply List.pairwise_of_forall_mem_list
  intro a ha b hb
  rw [h.eq_slot ha, h.eq_slot hb, Slot.precedes_self]

theorem spelled_leaf {l : Leaf} (h : Stands v F (.leaf l) r n) (hl : l.isAvailable v = true) :
    spelled r.path F = List.replicate (F.countP (fun s => s.kind == l.kind)) l.kind := by
  have hkinds : (Particle.leaf l).offeredKinds v = [l.kind] :=
    Particle.offeredKinds_of_offered (p := .leaf l) hl
  have hunder : under r.path F = F.filter (fun s => s.kind == l.kind) := by
    apply List.filter_congr
    intro s hs
    rw [Bool.eq_iff_iff, List.isPrefixOf_iff_prefix, beq_iff_eq]
    constructor
    · intro hp
      simpa [hkinds] using h.kind_mem (mem_under.mpr ⟨hs, hp⟩)
    · intro hk
      exact h.below s hs (by simp [hkinds, hk])
  rw [List.eq_replicate_iff, spelled, hunder, List.length_map, List.countP_eq_length_filter]
  refine ⟨rfl, fun k hk => ?_⟩
  obtain ⟨s, hs, rfl⟩ := List.mem_map.mp hk
  simpa using (List.mem_filter.mp hs).2

theorem root (hF : ∀ s ∈ F, s ∈ (outline v p .root 0).slots) (hd : (p.offeredKinds v).Nodup) :
    Stands v F p .root 0 := by
  refine ⟨fun s hs => hF s (mem_under.mp hs).1, fun s _ _ => List.nil_prefix, hd, rfl, ?_⟩
  intro k hk
  simp [Route.root] at hk

end Stands

/-- The alternatives of the choice at a place that were filled, without repetition. -/
structure Taken (F : List Slot) (place : Path) (taken : List Nat) : Prop where
  nodup : taken.Nodup
  mem_iff : ∀ a, a ∈ taken ↔ ∃ s ∈ F, place ++ [⟨0, a⟩] <+: s.path

theorem Taken.length_eq {place : Path} {as bs : List Nat} (h : Taken F place as)
    (k : Taken F place bs) : as.length = bs.length := by
  apply List.Perm.length_eq
  rw [List.perm_ext_iff_of_nodup h.nodup k.nodup]
  intro a
  rw [h.mem_iff, k.mem_iff]

theorem Taken.length_le {place : Path} {taken : List Nat} (h : Taken F place taken) :
    taken.length ≤ F.length := by
  have hsub : taken ⊆ F.map (fun s => (s.path[place.length]?.getD default).alternative) := by
    intro a ha
    obtain ⟨s, hs, rest, hrest⟩ := (h.mem_iff a).mp ha
    refine List.mem_map.mpr ⟨s, hs, ?_⟩
    simp [← hrest]
  simpa using (List.subperm_of_subset h.nodup hsub).length_le

theorem taken_alternatives (hF : ∀ s ∈ F, s ∈ (outline v p .root 0).slots) {g : Nat}
    {f : ChoiceGroup} (hf : (outline v p .root 0).groups[g]? = some f) :
    Taken F f.place ((Progress.after F).alternatives g) := by
  refine ⟨nodup_eraseDups _, fun a => ?_⟩
  rw [Progress.mem_alternatives]
  constructor
  · rintro ⟨s, hs, ha⟩
    exact ⟨s, hs, (lookup_choices (hF s hs) hf a).mp ha⟩
  · rintro ⟨s, hs, ha⟩
    exact ⟨s, hs, (lookup_choices (hF s hs) hf a).mpr ha⟩

structure SlotPasses (F : List Slot) (s : Slot) : Prop where
  bounded : s.total.isExceeded (F.countP (fun t => t.kind == s.kind)) = false
  filled : F.countP (fun t => t.kind == s.kind) < s.minCount →
    (Progress.after F).isDemanded s.path s.presence = false

structure ChoicePasses (F : List Slot) (f : ChoiceGroup) (taken : List Nat) : Prop where
  single : f.total.isExceeded taken.length = false
  filled : taken = [] → (Progress.after F).isDemanded f.place f.presence = false

structure Approved (F : List Slot) (m : Model) : Prop where
  slots : ∀ s ∈ m.slots, SlotPasses F s
  choices : ∀ f ∈ m.groups, ∀ taken, Taken F f.place taken → ChoicePasses F f taken

theorem Approved.member (h : Approved F (outline v (.group c o members) r n)) {i : Nat}
    {m : Particle} (hi : members[i]? = some m) :
    Approved F (intoOutline v c o members r n i m) := by
  constructor
  · intro s hs
    exact h.slots s (mem_slots_group.mpr ⟨i, m, hi, hs⟩)
  · intro f hf
    exact h.choices f (mem_groups_group.mpr (.inr ⟨i, m, hi, hf⟩))

theorem passes_slots_iff (hF : ∀ s ∈ F, s ∈ (outline v p .root 0).slots)
    (hd : (p.offeredKinds v).Nodup) :
    (∀ s ∈ (outline v p .root 0).slots, SlotPasses F s) ↔
      (∀ s ∈ F, s.total.isExceeded (F.countP (fun t => t.kind == s.kind)) = false) ∧
      ∀ s ∈ (ofParticle v p).slots, F.countP (fun t => t.kind == s.kind) < s.minCount →
        (Progress.after F).isDemanded s.path s.presence = false := by
  have hslots := ofParticle_slots_of_nodup hd
  rw [hslots]
  constructor
  · intro h
    exact ⟨fun s hs => (h s (hF s hs)).bounded, fun s hs => (h s hs).filled⟩
  · rintro ⟨hbound, hfill⟩ s hs
    refine ⟨?_, hfill s hs⟩
    by_cases hsF : s ∈ F
    · exact hbound s hsF
    · have hzero : F.countP (fun t => t.kind == s.kind) = 0 := by
        rw [List.countP_eq_zero]
        intro t ht hk
        have hm := regular_ofParticle v p
        rw [← hslots] at hs
        have hts := hF t ht
        rw [← hslots] at hts
        exact hsF (eq_of_kind_eq hm hts hs (by simpa using hk) ▸ ht)
      rw [hzero]
      cases hmax : s.total.max <;> simp [Occurs.isExceeded, hmax]

theorem passes_groups_iff (hF : ∀ s ∈ F, s ∈ (outline v p .root 0).slots) :
    (∀ f ∈ (outline v p .root 0).groups, ∀ taken, Taken F f.place taken → ChoicePasses F f taken) ↔
      ∀ g (f : ChoiceGroup), (ofParticle v p).groups[g]? = some f →
        ChoicePasses F f ((Progress.after F).alternatives g) := by
  have hget := groups_getElem?_bare v p
  constructor
  · intro h g f hf
    have hbare : (outline v p .root 0).groups[g]? = some f.bare := by rw [hget, hf]; rfl
    have hpass := h f.bare (List.mem_of_getElem? hbare) _ (taken_alternatives hF hbare)
    exact ⟨hpass.single, hpass.filled⟩
  · intro h f hf taken htaken
    obtain ⟨g, hg⟩ := List.mem_iff_getElem?.mp hf
    have hlen := htaken.length_eq (taken_alternatives hF hg)
    rw [hget, Option.map_eq_some_iff] at hg
    obtain ⟨full, hfull, rfl⟩ := hg
    have hpass := h g full hfull
    refine ⟨?_, fun hnil => hpass.filled ?_⟩
    · rw [hlen]
      exact hpass.single
    · rw [hnil] at hlen
      exact List.eq_nil_of_length_eq_zero hlen.symm

theorem mem_outline_of_mem_filledBy (hd : (p.offeredKinds v).Nodup) {children : List Element} :
    ∀ s ∈ (ofParticle v p).filledBy children, s ∈ (outline v p .root 0).slots := by
  intro s hs
  rw [← ofParticle_slots_of_nodup hd]
  exact mem_slots_of_mem_filledBy hs

theorem contentFindings_ofParticle_eq_nil_iff (hd : (p.offeredKinds v).Nodup) (parent : NodeRef)
    (children : List Element) (hF : (ofParticle v p).filledBy children = F) :
    contentFindings (ofParticle v p) parent children = [] ↔
      (∀ e ∈ children, ¬(ofParticle v p).IsStranger e) ∧
      F.IsChain (fun a b => b.precedes a = false) ∧ Approved F (outline v p .root 0) := by
  have hslots : ∀ s ∈ F, s ∈ (outline v p .root 0).slots := hF ▸ mem_outline_of_mem_filledBy hd
  rw [contentFindings_eq_nil_iff (regular_ofParticle v p), hF]
  refine and_congr_right fun _ => ?_
  constructor
  · rintro ⟨ho, hf⟩
    refine ⟨ho.ordered, (passes_slots_iff hslots hd).mpr ⟨ho.bounded, hf.slots⟩, ?_⟩
    exact (passes_groups_iff hslots).mpr fun g f h => ⟨ho.single g f h, hf.groups g f h⟩
  · rintro ⟨ho, ha⟩
    obtain ⟨hb, hs⟩ := (passes_slots_iff hslots hd).mp ha.slots
    have hg := (passes_groups_iff hslots).mp ha.choices
    exact ⟨⟨ho, hb, fun g f h => (hg g f h).single⟩, ⟨hs, fun g f h => (hg g f h).filled⟩⟩

theorem kinds_ofParticle (hd : (p.offeredKinds v).Nodup) :
    (ofParticle v p).kinds = p.offeredKinds v := by
  rw [← kinds_outline v p .root 0, kinds, kinds, ofParticle_slots_of_nodup hd]

theorem map_kind_filledBy {m : Model} {children : List Element}
    (h : ∀ e ∈ children, ¬m.IsStranger e) :
    (m.filledBy children).map Slot.kind = children.filterMap Element.kind? := by
  induction children with
  | nil => rfl
  | cons e es ih =>
      have hrest := ih fun d hd => h d (by simp [hd])
      have hrole := role_spec m e
      rw [filledBy] at hrest
      rw [filledBy, List.filterMap_cons, List.filterMap_cons]
      cases hk : e.kind? with
      | none => simp [slotOf?, hk, hrest]
      | some k =>
          cases hs : m.slotOf? e with
          | some s =>
              have hm : m.slot? k = some s := by simpa [slotOf?, hk] using hs
              simp [hrest, (slot?_mem hm).2]
          | none =>
              have hm : m.slot? k = none := by simpa [slotOf?, hk] using hs
              have hnot := h e (by simp)
              rw [IsStranger] at hnot
              cases hn : e.node <;> simp_all [Element.kind?, Node.kind?, slot?_eq_none_iff]

end OfficeSchema.Model
