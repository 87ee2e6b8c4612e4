import OfficeSchema.Catalog
import OfficeSchema.Listing.Wordprocessing
import OfficeSchema.Proofs.Content.Portion
import OfficeSchema.Proofs.Particle.Assembly

namespace OfficeSchema

def Occurs.Sound (o : Occurs) : Prop :=
  o.min ≤ countCap ∧ ∀ max ∈ o.max, o.min ≤ max ∧ 1 ≤ max

instance : DecidablePred Occurs.Sound := fun _ => inferInstanceAs (Decidable (_ ∧ _))

namespace Particle

def IsLeaf : Particle → Prop
  | .leaf _ => True
  | .group _ _ _ => False

instance : DecidablePred IsLeaf
  | .leaf _ => .isTrue trivial
  | .group _ _ _ => .isFalse id

def IsMixture (c : Compositor) (o : Occurs) (members : List Particle) : Prop :=
  c = .choice ∧ o.min ≤ 1 ∧ o.max = none ∧ ∀ m ∈ members, m.IsLeaf ∧ m.occurs.min ≤ 1

instance (c : Compositor) (o : Occurs) (members : List Particle) :
    Decidable (IsMixture c o members) :=
  inferInstanceAs (Decidable (_ ∧ _))

def Steady : Particle → Prop
  | .leaf l => l.occurs.Sound
  | .group c o members =>
      o.Sound ∧ (o.max = some 1 ∨ IsMixture c o members) ∧ (c = .choice → members ≠ []) ∧
        (c = .all → ∀ m ∈ members, m.IsLeaf)

instance : DecidablePred Steady
  | .leaf l => inferInstanceAs (Decidable l.occurs.Sound)
  | .group _ _ _ => inferInstanceAs (Decidable (_ ∧ _))

/-- What a version has of a plain content model offers no kind twice, and its groups do not repeat
unless they are mixtures. -/
structure Plain (v : Version) (p : Particle) : Prop where
  nodup : (p.offeredKinds v).Nodup
  steady : ∀ q ∈ p.restrict v, q.Everywhere Steady

instance (v : Version) (p : Particle) : Decidable (p.Plain v) :=
  decidable_of_iff ((p.offeredKinds v).Nodup ∧ ∀ q ∈ p.restrict v, q.Everywhere Steady)
    ⟨fun h => ⟨h.1, h.2⟩, fun h => ⟨h.nodup, h.steady⟩⟩

end Particle

namespace Model

variable {v : Version} {F : List Slot} {p : Particle} {c : Compositor} {o : Occurs}
  {members : List Particle} {r : Route} {n : Nat}

structure Narrow (r : Route) : Prop where
  single : r.repeatable.any id = false
  max : r.total.max = some 1
  factor : r.factor = 1

theorem narrow_root : Narrow .root := ⟨rfl, rfl, rfl⟩

theorem Narrow.member (h : Narrow r) (ho : o.Sound) (hmax : o.max = some 1) (i : Nat) :
    Narrow (intoRoute v c o members r n i) := by
  have hmin : o.min ≤ 1 := (ho.2 1 hmax).1
  constructor
  · rw [repeatable_intoRoute]
    simp [h.single, Occurs.isRepeatable, hmax]
  · rw [total_intoRoute]
    simp [Occurs.times, h.max, hmax, Occurs.timesMax, capMul, countCap]
  · simp only [intoRoute, Route.member, Route.enter, h.factor]
    split
    · rfl
    · split
      · rfl
      · have : o.min = 1 := by omega
        simp [this, capMul, countCap]

def Parses (F : List Slot) (q : Particle) (r : Route) : Prop :=
  (under r.path F).IsChain (fun a b => b.precedes a = false) →
    under r.path F ≠ [] ∨ Surrounded F r.path r.anchor → spelled r.path F ∈ q.words

theorem leaf_mem_words {l : Leaf} (hs : Stands v F (.leaf l) r n) (hr : Narrow r)
    (hl : l.isAvailable v = true) (ho : l.occurs.Sound)
    (ha : Approved F (outline v (.leaf l) r n))
    (hd : under r.path F ≠ [] ∨ Surrounded F r.path r.anchor) :
    spelled r.path F ∈ (Particle.leaf l).words := by
  have hpass := ha.slots (r.slot l) (by simp [outline, hl])
  have hsur : Surrounded F r.path r.anchor := by
    rcases hd with hd | hd
    · exact surrounded_of_mem hd hs.anchor
    · exact hd
  rw [hs.spelled_leaf hl]
  refine ⟨_, ⟨?_, fun max hmax => ?_⟩, replicate_mem_pow _ _⟩
  · by_contra hcon
    have hmin : l.occurs.min ≠ 0 := by omega
    have hcount : (r.slot l).minCount = l.occurs.min := by
      have := ho.1
      simp only [Route.slot, hr.factor, capMul]
      omega
    have hmiss := hpass.filled (by
      rw [hcount]
      exact Nat.lt_of_not_le hcon)
    have hdem : (Progress.after F).isDemanded r.path (.of l.occurs.min r.anchor) = true :=
      (isDemanded_of _ _ _ _).mpr ⟨hmin, hsur⟩
    simp [Route.slot, hdem] at hmiss
  · have hbound := hpass.bounded
    have htotal : (r.slot l).total.max = some (min max countCap) := by
      simp [Route.slot, Occurs.times, hr.max, hmax, Occurs.timesMax, capMul]
    simp only [Occurs.isExceeded, htotal, decide_eq_false_iff_not, Nat.not_lt] at hbound
    exact hbound.trans (Nat.min_le_left _ _)

theorem Stands.exists_taken (hs : Stands v F (.group .choice o members) r n) :
    ∃ taken, Taken F r.path taken := by
  refine ⟨(List.range members.length).filter (fun i =>
    under (intoRoute v .choice o members r n i).path F ≠ []), ?_, fun a => ?_⟩
  · exact List.nodup_range.filter _
  · simp only [List.mem_filter, List.mem_range, decide_eq_true_eq]
    constructor
    · rintro ⟨-, hne⟩
      obtain ⟨s, hsu⟩ := List.exists_mem_of_ne_nil _ hne
      exact ⟨s, (mem_under.mp hsu).1, (mem_under.mp hsu).2⟩
    · rintro ⟨s, hsF, hp⟩
      have hsu : s ∈ under r.path F := mem_under.mpr ⟨hsF, (List.prefix_append _ _).trans hp⟩
      obtain ⟨i, m, hi, -, hm⟩ := hs.exists_member hsu
      have hpi : r.path ++ [⟨0, i⟩] <+: s.path := (mem_under.mp hm).2
      obtain rfl : a = i := by simpa using step_unique hp hpi
      exact ⟨(List.getElem?_eq_some_iff.mp hi).1, List.ne_nil_of_mem hm⟩

theorem taken_nil (h : under r.path F = []) : Taken F r.path [] := by
  refine ⟨.nil, fun a => ⟨fun ha => absurd ha List.not_mem_nil, ?_⟩⟩
  rintro ⟨s, hs, hp⟩
  have hsu : s ∈ under r.path F := mem_under.mpr ⟨hs, (List.prefix_append _ _).trans hp⟩
  simp [h] at hsu

theorem Approved.choice_made (hch : Chooses v .choice members)
    (ha : Approved F (outline v (.group .choice o members) r n))
    (hsur : Surrounded F r.path (r.enter o).anchor) : under r.path F ≠ [] := by
  intro hnil
  have hmem : (r.enter o).choice o ∈ (outline v (.group .choice o members) r n).groups :=
    mem_groups_group.mpr (.inl (by simp [ownChoice, hch]))
  have hpass : (Progress.after F).isDemanded r.path (.of o.min (r.enter o).anchor) = false :=
    (ha.choices _ hmem [] (taken_nil hnil)).filled rfl
  have hmin : o.min ≠ 0 := by
    intro hzero
    simp only [Route.enter, if_pos hzero] at hsur
    exact (surrounded_length F r.path).mp hsur hnil
  have hdem := (isDemanded_of F r.path o.min (r.enter o).anchor).mpr ⟨hmin, hsur⟩
  exact Bool.noConfusion (hdem.symm.trans hpass)

theorem Approved.choice_single (hs : Stands v F (.group .choice o members) r n)
    (hch : Chooses v .choice members)
    (ha : Approved F (outline v (.group .choice o members) r n))
    (hmax : (r.total.times o).max = some 1) {i j : Nat} {s t : Slot}
    (hi : s ∈ under (intoRoute v .choice o members r n i).path F)
    (hj : t ∈ under (intoRoute v .choice o members r n j).path F) : i = j := by
  obtain ⟨taken, ht⟩ := hs.exists_taken
  have hmem : (r.enter o).choice o ∈ (outline v (.group .choice o members) r n).groups :=
    mem_groups_group.mpr (.inl (by simp [ownChoice, hch]))
  have hsingle := (ha.choices _ hmem taken ht).single
  have hlen : taken.length ≤ 1 := by
    simpa [Occurs.isExceeded, Route.choice, Route.enter, hmax] using hsingle
  have hit : i ∈ taken := (ht.mem_iff i).mpr ⟨s, (mem_under.mp hi).1, (mem_under.mp hi).2⟩
  have hjt : j ∈ taken := (ht.mem_iff j).mpr ⟨t, (mem_under.mp hj).1, (mem_under.mp hj).2⟩
  rcases taken with - | ⟨a, - | ⟨b, rest⟩⟩
  · exact absurd hit List.not_mem_nil
  · exact (List.mem_singleton.mp hit).trans (List.mem_singleton.mp hjt).symm
  · simp at hlen

def positionAt (depth : Nat) (s : Slot) : Nat := (s.path[depth]?.getD default).position

theorem positionAt_of_step {path : Path} {x : Step} {s : Slot} (h : path ++ [x] <+: s.path) :
    positionAt path.length s = x.position := by
  obtain ⟨rest, hrest⟩ := h
  simp [positionAt, ← hrest]

theorem positionAt_of_mem {i : Nat} {s : Slot}
    (h : s ∈ under (intoRoute v .sequence o members r n i).path F) :
    positionAt r.path.length s = i :=
  positionAt_of_step (mem_under.mp h).2

namespace Stands

theorem sorted (hs : Stands v F (.group .sequence o members) r n)
    (hrep : (r.repeatable ++ [o.isRepeatable]).any id = false)
    (hc : (under r.path F).IsChain (fun a b => b.precedes a = false)) :
    (under r.path F).Pairwise
      (fun a b => positionAt r.path.length a ≤ positionAt r.path.length b) := by
  have hchain : (under r.path F).IsChain
      (fun a b => positionAt r.path.length a ≤ positionAt r.path.length b) := by
    refine hc.imp_of_mem_imp fun a b ha hb hab => ?_
    obtain ⟨i, ma, hi, -, hai⟩ := hs.exists_member ha
    obtain ⟨j, mb, hj, -, hbj⟩ := hs.exists_member hb
    rw [positionAt_of_mem hai, positionAt_of_mem hbj]
    by_contra hlt
    have hne : Step.toMember .sequence i ≠ Step.toMember .sequence j := by
      intro he
      have := Step.toMember_inj he
      omega
    have hpa : r.path ++ [Step.toMember .sequence i] <+: a.path := (mem_under.mp hai).2
    have hpb : r.path ++ [Step.toMember .sequence j] <+: b.path := (mem_under.mp hbj).2
    rw [Slot.precedes_of_steps hpa hpb hne, hs.repeatable_take hi hai, hrep] at hab
    simp only [Step.toMember, Compositor.isUnordered, Bool.false_eq_true, if_false, Bool.not_false,
      Bool.and_true, decide_eq_false_iff_not] at hab
    omega
  have hmap := (List.isChain_map (positionAt r.path.length) (R := (· ≤ ·))).mpr hchain
  exact List.pairwise_map.mp (List.isChain_iff_pairwise.mp hmap)

theorem under_member_infix (hs : Stands v F (.group .sequence o members) r n)
    (h : (under r.path F).Pairwise
      (fun a b => positionAt r.path.length a ≤ positionAt r.path.length b))
    {i : Nat} {m : Particle} (hi : members[i]? = some m) :
    under (intoRoute v .sequence o members r n i).path F <:+: under r.path F := by
  have hfilter : under (intoRoute v .sequence o members r n i).path F =
      (under r.path F).filter (fun s => positionAt r.path.length s = i) := by
    rw [hs.under_member hi]
    apply List.filter_congr
    intro s hsu
    rw [Bool.eq_iff_iff, decide_eq_true_eq, decide_eq_true_eq]
    constructor
    · intro hk
      exact positionAt_of_mem ((hs.mem_under_member hi).mpr ⟨hsu, hk⟩)
    · intro hpos
      obtain ⟨j, q, hj, hk, hq⟩ := hs.exists_member hsu
      obtain rfl : j = i := (positionAt_of_mem hq).symm.trans hpos
      obtain rfl : q = m := Option.some.inj (hj.symm.trans hi)
      exact hk
  rw [hfilter]
  exact filter_infix_of_sorted h i

theorem inOrder_spelled (hs : Stands v F (.group .sequence o members) r n)
    (h : (under r.path F).Pairwise
      (fun a b => positionAt r.path.length a ≤ positionAt r.path.length b)) :
    (spelled r.path F).Pairwise (Particle.InOrder v members) := by
  rw [spelled, List.pairwise_map]
  refine h.imp_of_mem fun ha hb hab i j p q hi hj hkp hkq => ?_
  rw [positionAt_of_mem ((hs.mem_under_member hi).mpr ⟨ha, hkp⟩),
    positionAt_of_mem ((hs.mem_under_member hj).mpr ⟨hb, hkq⟩)] at hab
  exact hab

theorem kind_mem_members (hs : Stands v F (.group c o members) r n) :
    ∀ k ∈ spelled r.path F, k ∈ Particle.kindsOf (Particle.restrictAll v members) := by
  intro k hk
  obtain ⟨s, hsu, rfl⟩ := List.mem_map.mp hk
  obtain ⟨i, m, hi, hkm, -⟩ := hs.exists_member hsu
  exact Particle.mem_kindsOf_restrictAll.mpr ⟨i, m, hi, hkm⟩

end Stands

theorem surrounded_member (hs : Stands v F (.group c o members) r n) (hc : c ≠ .choice)
    (hsur : Surrounded F r.path (r.enter o).anchor) (i : Nat) :
    Surrounded F (intoRoute v c o members r n i).path (intoRoute v c o members r n i).anchor := by
  have hnone : choiceNumber v c members n = none := if_neg fun h => hc h.1
  have hanchor : (intoRoute v c o members r n i).anchor = (r.enter o).anchor := by
    simp [intoRoute, Route.member, hnone]
  rw [hanchor]
  exact (surrounded_above (List.prefix_append r.path _) (hs.enter_anchor o)).mpr hsur

theorem surrounded_enter (hs : Stands v F (.group c o members) r n)
    (hd : under r.path F ≠ [] ∨ Surrounded F r.path r.anchor)
    (hzero : ¬(under r.path F = [] ∧ o.min = 0)) : Surrounded F r.path (r.enter o).anchor := by
  by_cases hu : under r.path F = []
  · have hmin : o.min ≠ 0 := fun h => hzero ⟨hu, h⟩
    simp only [Route.enter, if_neg hmin]
    exact hd.resolve_left (· hu)
  · exact surrounded_of_mem hu (hs.enter_anchor o)

section Body

variable (hs : Stands v F (.group c o members) r n)
  (hsur : Surrounded F r.path (r.enter o).anchor)
  (hm : ∀ i m, members[i]? = some m → m.isOffered v = true →
    Parses F (m.trim v) (intoRoute v c o members r n i))

include hs hsur hm

theorem sequence_mem_body (he : c = .sequence)
    (hrep : (r.repeatable ++ [o.isRepeatable]).any id = false)
    (hc : (under r.path F).IsChain (fun a b => b.precedes a = false)) :
    spelled r.path F ∈ Particle.bodyWords c (Particle.restrictAll v members) := by
  subst he
  have hsorted := hs.sorted hrep hc
  have hnodup := hs.nodup
  rw [Particle.offeredKinds_group] at hnodup
  apply Particle.mem_bodyWords_of_filters (by decide) hnodup hs.kind_mem_members
  · intro _
    exact hs.inOrder_spelled hsorted
  · intro m hmem hoff
    obtain ⟨i, hi⟩ := List.mem_iff_getElem?.mp hmem
    rw [← hs.spelled_member hi]
    apply hm i m hi hoff
    · exact hc.infix (hs.under_member_infix hsorted hi)
    · exact .inr (surrounded_member hs (by decide) hsur i)

theorem all_mem_body (he : c = .all)
    (hleaf : ∀ m ∈ Particle.restrictAll v members, m.IsLeaf) :
    spelled r.path F ∈ Particle.bodyWords c (Particle.restrictAll v members) := by
  subst he
  have hnodup := hs.nodup
  rw [Particle.offeredKinds_group] at hnodup
  apply Particle.mem_bodyWords_of_filters (by decide) hnodup hs.kind_mem_members
  · intro h
    exact absurd h (by decide)
  · intro m hmem hoff
    obtain ⟨i, hi⟩ := List.mem_iff_getElem?.mp hmem
    rw [← hs.spelled_member hi]
    apply hm i m hi hoff
    · have hl := hleaf _ (Particle.mem_restrictAll.mpr ⟨m, hmem, hoff, rfl⟩)
      have hsi := hs.member hi
      cases m with
      | leaf l => exact hsi.leaf_pairwise.isChain
      | group c o members => exact absurd hl id
    · exact .inr (surrounded_member hs (by decide) hsur i)

theorem choice_mem_body (he : c = .choice) (hch : Chooses v c members)
    (ha : Approved F (outline v (.group c o members) r n))
    (hmax : (r.total.times o).max = some 1)
    (hc : (under r.path F).IsChain (fun a b => b.precedes a = false)) :
    spelled r.path F ∈ Particle.bodyWords c (Particle.restrictAll v members) := by
  subst he
  have hmade := ha.choice_made hch hsur
  obtain ⟨s, hsu⟩ := List.exists_mem_of_ne_nil _ hmade
  obtain ⟨i, m, hi, hk, hsi⟩ := hs.exists_member hsu
  have hoff := Particle.isOffered_of_mem_offeredKinds hk
  have hall : under (intoRoute v .choice o members r n i).path F = under r.path F := by
    rw [hs.under_member hi, List.filter_eq_self]
    intro t ht
    obtain ⟨j, q, hj, hkq, htj⟩ := hs.exists_member ht
    obtain rfl := ha.choice_single hs hch hmax hsi htj
    obtain rfl : m = q := Option.some.inj (hi.symm.trans hj)
    simpa using hkq
  have hword : spelled r.path F ∈ (m.trim v).words := by
    have hparse := hm i m hi hoff
    rw [Parses, spelled, hall] at hparse
    exact hparse hc (.inl hmade)
  exact Particle.mem_bodyWords_choice.mpr
    ⟨m.trim v, Particle.mem_restrictAll.mpr ⟨m, List.mem_of_getElem? hi, hoff, rfl⟩, hword⟩

end Body

theorem mixture_mem_pow (hs : Stands v F (.group .choice o members) r n)
    (hsteady : ∀ m ∈ Particle.restrictAll v members, m.Everywhere Particle.Steady)
    (hleaf : ∀ m ∈ Particle.restrictAll v members, m.IsLeaf ∧ m.occurs.min ≤ 1) :
    spelled r.path F ∈ Particle.bodyWords .choice (Particle.restrictAll v members) ^
      (spelled r.path F).length := by
  apply Particle.mem_pow_length
  intro k hk
  obtain ⟨m, hm, hkm⟩ := Particle.mem_kindsOf.mp (hs.kind_mem_members k hk)
  refine Particle.mem_bodyWords_choice.mpr ⟨m, hm, ?_⟩
  obtain ⟨hl, hmin⟩ := hleaf m hm
  cases m with
  | group c o members => exact absurd hl id
  | leaf l =>
      have hsound : l.occurs.Sound := (hsteady _ hm).self
      obtain rfl : k = l.kind := by simpa [Particle.kinds_leaf] using hkm
      exact ⟨1, ⟨hmin, fun max hmax => (hsound.2 max hmax).2⟩, replicate_mem_pow _ 1⟩

theorem parses_outline (hs : Stands v F p r n) (hp : p.isOffered v = true)
    (hq : (p.trim v).Everywhere Particle.Steady) (hr : Narrow r)
    (ha : Approved F (outline v p r n)) : Parses F (p.trim v) r := by
  induction p generalizing r n with
  | leaf l =>
      intro _ hd
      exact leaf_mem_words hs hr hp hq ha hd
  | group c o members ih =>
      intro hc hd
      obtain ⟨⟨hsound, hkind, hne, hall⟩, hparts⟩ := Particle.everywhere_group.mp hq
      have hch (he : c = .choice) : Chooses v c members := by
        refine ⟨he, ?_⟩
        rw [← Particle.length_restrictAll]
        exact List.length_pos_iff.mpr (hne he)
      by_cases hzero : under r.path F = [] ∧ o.min = 0
      · refine ⟨0, ⟨by omega, fun _ _ => Nat.zero_le _⟩, ?_⟩
        simp [spelled, hzero.1]
      have hsur := surrounded_enter hs hd hzero
      rcases hkind with hmax | ⟨rfl, hmin, hmax, hleaf⟩
      · -- the body stands once
        have hm (i : Nat) (m : Particle) (hi : members[i]? = some m) (hoff : m.isOffered v = true) :
            Parses F (m.trim v) (intoRoute v c o members r n i) := by
          have hmem := List.mem_of_getElem? hi
          have hpart := hparts _ (Particle.mem_restrictAll.mpr ⟨m, hmem, hoff, rfl⟩)
          exact ih m hmem (hs.member hi) hoff hpart (hr.member hsound hmax i) (ha.member hi)
        have htotal : (r.total.times o).max = some 1 := by
          simp [Occurs.times, hr.max, hmax, Occurs.timesMax, capMul, countCap]
        have hone : o.Admits 1 := by
          refine ⟨(hsound.2 1 hmax).1, fun max h => ?_⟩
          rw [hmax] at h
          exact Nat.le_of_eq (Option.some.inj h)
        refine ⟨1, hone, ?_⟩
        rw [pow_one]
        cases hcomp : c with
        | sequence =>
            have hrep : (r.repeatable ++ [o.isRepeatable]).any id = false := by
              simp [hr.single, Occurs.isRepeatable, hmax]
            exact hcomp ▸ sequence_mem_body hs hsur hm hcomp hrep hc
        | choice => exact hcomp ▸ choice_mem_body hs hsur hm hcomp (hch hcomp) ha htotal hc
        | all => exact hcomp ▸ all_mem_body hs hsur hm hcomp (hall hcomp)
      · -- a mixture stands as often as it has children
        refine ⟨_, ⟨?_, fun max h => by simp [hmax] at h⟩, mixture_mem_pow hs hparts hleaf⟩
        have hpos : 0 < (spelled r.path F).length := by
          rw [spelled, List.length_map]
          exact List.length_pos_iff.mpr (ha.choice_made (hch rfl) hsur)
        omega

theorem filled_mem_language (hp : p.Plain v) (hF : ∀ s ∈ F, s ∈ (outline v p .root 0).slots)
    (hc : F.IsChain (fun a b => b.precedes a = false)) (ha : Approved F (outline v p .root 0)) :
    F.map Slot.kind ∈ p.language v := by
  rw [Particle.language, Particle.restrict_eq]
  split
  · next hoff =>
      have hparse := parses_outline (Stands.root hF hp.nodup) hoff
        (hp.steady _ (by simp [Particle.restrict_eq, hoff])) narrow_root ha
      rw [Parses, spelled, Route.root, under_nil] at hparse
      exact Language.mem_mul.mpr ⟨_, hparse hc (.inr trivial), [], rfl, List.append_nil _⟩
  · next hoff =>
      have hnil : F = [] := List.eq_nil_iff_forall_not_mem.mpr fun s hs =>
        hoff (isOffered_of_mem_slots (hF s hs))
      rw [hnil]
      exact Language.nil_mem_one

theorem not_unknown_of_not_stranger {m : Model} {e : Element} (h : ¬m.IsStranger e) :
    e.node.isUnknown = false := by
  rw [IsStranger] at h
  cases hn : e.node with
  | unknown name address => simp [hn] at h
  | _ => rfl

theorem bundled_plain : ∃ catalog, Catalog.ofListing .wordprocessing = .ok catalog ∧
    ∀ d ∈ catalog.declarations, ∀ p ∈ d.content, ∀ v, p.Plain v := by
  have h : (match Catalog.ofListing .wordprocessing with
      | .ok catalog =>
          decide (∀ d ∈ catalog.declarations, ∀ p ∈ d.content, ∀ v ∈ Version.all, p.Plain v)
      | .error _ => false) = true := by decide +kernel
  split at h
  · next catalog hcatalog =>
      refine ⟨catalog, hcatalog, fun d hd p hp v => ?_⟩
      exact of_decide_eq_true h d hd p hp v (Version.mem_all v)
  · simp at h

/-- What passes the check of a plain model is a word of it, and all bundled models are plain. -/
theorem plain_content_parses :
    (∀ (v : Version) (p : Particle), p.Plain v → ∀ (parent : NodeRef) (children : List Element),
      contentFindings (ofParticle v p) parent children = [] →
        (∀ e ∈ children, e.node.isUnknown = false) ∧
          children.filterMap Element.kind? ∈ p.language v) ∧
    ∃ catalog, Catalog.ofListing .wordprocessing = .ok catalog ∧
      ∀ d ∈ catalog.declarations, ∀ p ∈ d.content, ∀ v, p.Plain v := by
  refine ⟨fun v p hp parent children h => ?_, bundled_plain⟩
  obtain ⟨hstr, hc, ha⟩ := (contentFindings_ofParticle_eq_nil_iff hp.nodup parent children rfl).mp h
  refine ⟨fun e he => not_unknown_of_not_stranger (hstr e he), ?_⟩
  rw [← map_kind_filledBy hstr]
  exact filled_mem_language hp (mem_outline_of_mem_filledBy hp.nodup) hc ha

theorem plain_content_parses_table :
    (["w:tblGrid", "w:tr", "w:tr"].map Kind.mk) ∈ (Particle.group .sequence .once
      [.leaf ⟨⟨"w:tblGrid"⟩, .once, none⟩, .leaf ⟨⟨"w:tr"⟩, .zeroOrMore, none⟩]).language
        .office2007 := by
  have hplain : (Particle.group .sequence .once
      [.leaf ⟨⟨"w:tblGrid"⟩, .once, none⟩, .leaf ⟨⟨"w:tr"⟩, .zeroOrMore, none⟩]).Plain
        .office2007 := by decide
  have hnone : contentFindings (ofParticle .office2007 (.group .sequence .once
      [.leaf ⟨⟨"w:tblGrid"⟩, .once, none⟩, .leaf ⟨⟨"w:tr"⟩, .zeroOrMore, none⟩]))
      ⟨[], ⟨"w:tbl", 1⟩, none⟩
      (["w:tblGrid", "w:tr", "w:tr"].map (fun k => .ofNode (.typed ⟨k⟩ ⟨23, k⟩ .composite))) =
        [] := by decide
  exact (plain_content_parses.1 _ _ hplain _ _ hnone).2

end Model

end OfficeSchema
