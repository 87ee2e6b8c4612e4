import OfficeSchema.Proofs.Content.Portion

/-!
Content that a model allows passes the check. Along a route the portion below it is a power of the
words of the particle; the exponent stays within the bounds multiplied along the route, and it
reaches their minima wherever the surroundings are filled.
-/

namespace OfficeSchema

/-- A choice that must be made makes itself known: none of its alternatives is a word without
kinds. -/
def Particle.Decisive : Particle → Prop
  | .group .choice o members => o.min ≠ 0 → ∀ m ∈ members, [] ∉ m.words
  | _ => True

namespace Model

variable {v : Version} {F : List Slot} {p : Particle} {c : Compositor} {o : Occurs}
  {members : List Particle} {r : Route} {n j : Nat}

/-- A number of words of `A` accounts for the portion below a route. -/
structure Accounts (F : List Slot) (A : Language Kind) (r : Route) (j : Nat) : Prop where
  word : spelled r.path F ∈ A ^ j
  within : ∀ m, r.total.max = some m → min j countCap ≤ m
  single : r.repeatable.any id = false → j ≤ 1
  demanded : Surrounded F r.path r.anchor → r.factor ≤ j
  factor : r.factor ≠ 0

def bodyRoute (r : Route) (o : Occurs) : Route :=
  { r.enter o with repeatable := r.repeatable ++ [o.isRepeatable] }

theorem min_le_timesMax {a b : Option Nat} {j k : Nat} (hj : ∀ m, a = some m → min j countCap ≤ m)
    (hk : ∀ m, b = some m → k ≤ j * m) (hzero : j = 0 → k = 0) :
    ∀ m, Occurs.timesMax a b = some m → min k countCap ≤ m := by
  intro m hm
  cases a with
  | none =>
      cases b with
      | none => simp [Occurs.timesMax] at hm
      | some y =>
          have hky := hk y rfl
          cases y with
          | zero => simp_all
          | succ y => simp [Occurs.timesMax] at hm
  | some x =>
      have hx := hj x rfl
      cases b with
      | none =>
          cases x with
          | zero =>
              have : j = 0 := by
                simp only [countCap] at hx
                omega
              simp [hzero this]
          | succ x => simp [Occurs.timesMax] at hm
      | some y =>
          have hky := hk y rfl
          obtain rfl : min (x * y) countCap = m := by simpa [Occurs.timesMax, capMul] using hm
          rcases Nat.le_total j countCap with hcap | hcap
          · rw [Nat.min_eq_left hcap] at hx
            have hxy := Nat.mul_le_mul_right y hx
            omega
          · rw [Nat.min_eq_right hcap] at hx
            cases y with
            | zero => simp_all
            | succ y =>
                have hxy : x ≤ x * (y + 1) := Nat.le_mul_of_pos_right x (Nat.succ_pos y)
                omega

theorem ne_zero_of_under_ne_nil {A : Language Kind} {path : Path}
    (hw : spelled path F ∈ A ^ j) (hu : under path F ≠ []) : j ≠ 0 := by
  rintro rfl
  have hnil : spelled path F = [] := by simpa using hw
  exact hu (List.map_eq_nil_iff.mp hnil)

namespace Accounts

theorem enter {A : Language Kind} (h : Accounts F (repeated o A) r j) :
    ∃ k, Accounts F A (bodyRoute r o) k := by
  obtain ⟨k, hk, hmin, hmax, hzero⟩ := mem_pow_of_mem_repeated_pow h.word
  refine ⟨k, hk, min_le_timesMax h.within hmax hzero, fun hs => ?_, fun hd => ?_, ?_⟩
  · simp only [bodyRoute, List.any_append, List.any_cons, List.any_nil, Bool.or_false,
      Bool.or_eq_false_iff, id] at hs
    have hj := h.single hs.1
    have hone : o.max = some 1 ∨ o.max = some 0 := by
      have hrep := hs.2
      simp only [Occurs.isRepeatable, Bool.and_eq_false_iff, bne_eq_false_iff_eq] at hrep
      exact hrep
    rcases hone with hone | hone
    · have := hmax 1 hone
      omega
    · have := hmax 0 hone
      omega
  · simp only [bodyRoute, Route.enter] at hd ⊢
    split
    · next ho =>
        rw [if_pos ho, surrounded_length] at hd
        exact Nat.one_le_iff_ne_zero.mpr (ne_zero_of_under_ne_nil hk hd)
    · next ho =>
        rw [if_neg ho] at hd
        have hmul := Nat.mul_le_mul_right o.min (h.demanded hd)
        have hcap : capMul r.factor o.min ≤ r.factor * o.min := Nat.min_le_left _ _
        omega
  · simp only [bodyRoute, Route.enter]
    split
    · exact Nat.one_ne_zero
    · next ho => exact capMul_ne_zero h.factor ho

theorem member (hs : Stands v F (.group c o members) r n)
    (h : Accounts F (Particle.bodyWords c (Particle.restrictAll v members)) (bodyRoute r o) j)
    {i : Nat} {m : Particle} (hi : members[i]? = some m) (hm : m.isOffered v = true) :
    ∃ k, Accounts F (m.trim v).words (intoRoute v c o members r n i) k := by
  have hmem : m.trim v ∈ Particle.restrictAll v members :=
    Particle.mem_restrictAll.mpr ⟨m, List.mem_of_getElem? hi, hm, rfl⟩
  have hnodup := hs.nodup
  rw [Particle.offeredKinds_group] at hnodup
  obtain ⟨k, hkj, hk, heq⟩ := Particle.exists_mem_bodyWords_pow hmem hnodup h.word
  rw [← Particle.offeredKinds_of_offered hm] at hk
  have hword : spelled (intoRoute v c o members r n i).path F ∈ (m.trim v).words ^ k := by
    rw [hs.spelled_member hi]
    exact hk
  refine ⟨k, hword, fun x hx => ?_, fun hx => hkj.trans (h.single hx), fun hd => ?_, ?_⟩
  · have := h.within x hx
    omega
  · simp only [intoRoute, Route.member] at hd ⊢
    split
    · next hfree =>
        -- an alternative with rivals is demanded by itself only
        rw [if_pos hfree] at hd
        have hne := (surrounded_length _ _).mp hd
        exact Nat.one_le_iff_ne_zero.mpr (ne_zero_of_under_ne_nil hword hne)
    · next hfree =>
        rw [if_neg hfree] at hd
        have hall : k = j := by
          apply heq
          rw [Particle.length_restrictAll]
          by_cases hc : c = .choice
          · right
            have hpos : 0 < members.countP (Particle.isOffered v) :=
              List.countP_pos_iff.mpr ⟨m, List.mem_of_getElem? hi, hm⟩
            simpa [choiceNumber, Chooses, isAlone, hc, hpos] using hfree
          · exact .inl hc
        rw [hall]
        refine h.demanded ?_
        exact (surrounded_above (List.prefix_append r.path _) (hs.enter_anchor o)).mp hd
  · simp only [intoRoute, Route.member]
    split
    · exact Nat.one_ne_zero
    · exact h.factor

theorem sequence_order (hs : Stands v F (.group .sequence o members) r n)
    (h : Accounts F (Particle.bodyWords .sequence (Particle.restrictAll v members))
      (bodyRoute r o) j)
    (hrep : (r.repeatable ++ [o.isRepeatable]).any id = false) {a b : Slot}
    (hab : [a, b].Sublist (under r.path F)) {i i' : Nat} {ma mb : Particle}
    (hi : members[i]? = some ma) (hi' : members[i']? = some mb) (ha : a.kind ∈ ma.offeredKinds v)
    (hb : b.kind ∈ mb.offeredKinds v) : i ≤ i' := by
  have hone := h.single hrep
  have hmem : a ∈ under r.path F := hab.subset List.mem_cons_self
  have hzero := ne_zero_of_under_ne_nil h.word (List.ne_nil_of_mem hmem)
  have hj : j = 1 := by omega
  have hw := h.word
  rw [hj, pow_one] at hw
  have hnodup := hs.nodup
  rw [Particle.offeredKinds_group] at hnodup
  have hsorted := Particle.inOrder_of_mem_sequence hnodup hw
  exact List.pairwise_iff_forall_sublist.mp hsorted (hab.map Slot.kind) i i' ma mb hi hi' ha hb

theorem ordered (hs : Stands v F p r n) (hp : p.isOffered v = true)
    (h : Accounts F (p.trim v).words r j) :
    (under r.path F).Pairwise (fun a b => b.precedes a = false) := by
  induction p generalizing r n j with
  | leaf l => exact hs.leaf_pairwise
  | group c o members ih =>
      obtain ⟨k, hk⟩ := h.enter
      rw [List.pairwise_iff_forall_sublist]
      intro a b hab
      have ha : a ∈ under r.path F := hab.subset (by simp)
      have hb : b ∈ under r.path F := hab.subset (by simp)
      obtain ⟨i, ma, hi, hka, hai⟩ := hs.exists_member ha
      obtain ⟨i', mb, hi', hkb, hbi⟩ := hs.exists_member hb
      by_cases heq : i = i'
      · subst heq
        obtain rfl : ma = mb := Option.some.inj (hi.symm.trans hi')
        have hoff := Particle.isOffered_of_mem_offeredKinds hka
        obtain ⟨k', hk'⟩ := hk.member hs hi hoff
        have hpair := ih ma (List.mem_of_getElem? hi) (hs.member hi) hoff hk'
        refine List.pairwise_iff_forall_sublist.mp hpair ?_
        rw [hs.under_member hi]
        simpa [hka, hkb] using hab.filter (fun s => decide (s.kind ∈ ma.offeredKinds v))
      · have hne : Step.toMember c i ≠ Step.toMember c i' := fun he => heq (Step.toMember_inj he)
        have hpa : r.path ++ [Step.toMember c i] <+: a.path := (mem_under.mp hai).2
        have hpb : r.path ++ [Step.toMember c i'] <+: b.path := (mem_under.mp hbi).2
        rw [Slot.precedes_of_steps hpa hpb hne]
        cases c with
        | choice => simp [Step.toMember, Compositor.isUnordered]
        | all => simp [Step.toMember, Compositor.isUnordered]
        | sequence =>
            rw [hs.repeatable_take hi hai]
            by_contra hcon
            simp only [Step.toMember, Compositor.isUnordered, Bool.false_eq_true, if_false,
              Bool.not_eq_false, Bool.and_eq_true, decide_eq_true_eq, Bool.not_eq_true'] at hcon
            obtain ⟨hlt, hrep⟩ := hcon
            have hle := hk.sequence_order hs hrep hab hi hi' hka hkb
            omega

theorem leaf_passes {l : Leaf} (hlen : F.length ≤ countCap) (hs : Stands v F (.leaf l) r n)
    (hl : l.isAvailable v = true) (h : Accounts F (Particle.leaf l).words r j) :
    SlotPasses F (r.slot l) := by
  obtain ⟨k, hk⟩ := h.enter
  have hcount : F.countP (fun s => s.kind == l.kind) = k := by
    have hw := eq_replicate_of_mem_pow hk.word
    rw [bodyRoute, Route.enter, hs.spelled_leaf hl] at hw
    simpa using congrArg List.length hw
  constructor
  · show (r.total.times l.occurs).isExceeded (F.countP (fun s => s.kind == l.kind)) = false
    have hcap : k ≤ countCap := by
      have := List.countP_le_length (p := fun s => s.kind == l.kind) (l := F)
      omega
    have hwithin := hk.within
    simp only [bodyRoute, Route.enter] at hwithin
    rw [Nat.min_eq_left hcap] at hwithin
    rw [hcount]
    cases hmax : (r.total.times l.occurs).max with
    | none => simp [Occurs.isExceeded, hmax]
    | some m =>
        have := hwithin m hmax
        simpa [Occurs.isExceeded, hmax] using this
  · intro hmiss
    by_contra hcon
    have hdemanded : (Progress.after F).isDemanded r.path (.of l.occurs.min r.anchor) = true := by
      simpa [Route.slot] using hcon
    obtain ⟨hmin, hsur⟩ := (isDemanded_of _ _ _ _).mp hdemanded
    have hreached := hk.demanded
    simp only [bodyRoute, Route.enter, if_neg hmin] at hreached
    have := hreached hsur
    simp only [Route.slot, hcount] at hmiss
    omega

theorem slots (hlen : F.length ≤ countCap) (hs : Stands v F p r n)
    (h : Accounts F (p.trim v).words r j) : ∀ s ∈ (outline v p r n).slots, SlotPasses F s := by
  induction p generalizing r n j with
  | leaf l =>
      intro s hmem
      have hl : l.isAvailable v = true := isOffered_of_mem_slots hmem
      obtain rfl : s = r.slot l := by simpa [outline, hl] using hmem
      exact h.leaf_passes hlen hs hl
  | group c o members ih =>
      intro s hmem
      obtain ⟨k, hk⟩ := h.enter
      obtain ⟨i, m, hi, hm⟩ := mem_slots_group.mp hmem
      obtain ⟨k', hk'⟩ := hk.member hs hi (isOffered_of_mem_slots hm)
      exact ih m (List.mem_of_getElem? hi) (hs.member hi) hk' s hm

theorem length_taken_le (hs : Stands v F (.group .choice o members) r n)
    (h : Accounts F (Particle.bodyWords .choice (Particle.restrictAll v members)) (bodyRoute r o) j)
    {taken : List Nat} (ht : Taken F r.path taken) : taken.length ≤ j := by
  obtain ⟨is, hlen, his⟩ := Particle.exists_indices_of_mem_choice_pow h.word
  rw [← hlen]
  refine (List.subperm_of_subset ht.nodup fun a ha => ?_).length_le
  obtain ⟨s, hsF, hp⟩ := (ht.mem_iff a).mp ha
  have hsu : s ∈ under r.path F := mem_under.mpr ⟨hsF, (List.prefix_append _ _).trans hp⟩
  obtain ⟨i, m, hi, hk, hm⟩ := hs.exists_member hsu
  obtain rfl : a = i := by
    have hpi : r.path ++ [⟨0, i⟩] <+: s.path := (mem_under.mp hm).2
    simpa using step_unique hp hpi
  obtain ⟨i', hmem, q, hq, hkq⟩ := his s.kind (List.mem_map_of_mem hsu)
  obtain rfl := hs.index_eq hi hq hk hkq
  exact hmem

theorem choice_filled (hd : Particle.Decisive (.group .choice o (Particle.restrictAll v members)))
    (hs : Stands v F (.group .choice o members) r n)
    (h : Accounts F (Particle.bodyWords .choice (Particle.restrictAll v members)) (bodyRoute r o) j)
    (ht : Taken F r.path []) :
    (Progress.after F).isDemanded r.path (.of o.min (r.enter o).anchor) = false := by
  by_contra hcon
  obtain ⟨hmin, hsur⟩ := (isDemanded_of _ _ _ _).mp (by simpa using hcon)
  have hj : j ≠ 0 := by
    have := h.demanded hsur
    have := h.factor
    omega
  have hnil : [] ∉ Particle.bodyWords .choice (Particle.restrictAll v members) := by
    intro hw
    obtain ⟨q, hq, hwq⟩ := Particle.mem_bodyWords_choice.mp hw
    exact hd hmin q hq hwq
  obtain ⟨k, hk⟩ := List.exists_mem_of_ne_nil _ (ne_nil_of_mem_pow h.word hnil hj)
  obtain ⟨s, hsu, -⟩ := List.mem_map.mp hk
  obtain ⟨i, m, -, -, hm⟩ := hs.exists_member hsu
  exact List.not_mem_nil ((ht.mem_iff i).mpr ⟨s, (mem_under.mp hm).1, (mem_under.mp hm).2⟩)

theorem choices (hlen : F.length ≤ countCap) (hd : (p.trim v).Everywhere Particle.Decisive)
    (hs : Stands v F p r n) (h : Accounts F (p.trim v).words r j) :
    ∀ f ∈ (outline v p r n).groups, ∀ taken, Taken F f.place taken → ChoicePasses F f taken := by
  induction p generalizing r n j with
  | leaf l => simp [outline]
  | group c o members ih =>
      intro f hf taken ht
      obtain ⟨k, hk⟩ := h.enter
      obtain ⟨hself, hmembers⟩ := Particle.everywhere_group.mp hd
      rcases mem_groups_group.mp hf with hown | ⟨i, m, hi, hm⟩
      · unfold ownChoice at hown
        split at hown
        · next hch =>
            obtain rfl : c = .choice := hch.1
            obtain rfl : f = (r.enter o).choice o := by simpa using hown
            have hle := hk.length_taken_le hs ht
            have hcap := ht.length_le
            refine ⟨?_, fun hnil => hk.choice_filled hself hs (hnil ▸ ht)⟩
            simp only [Occurs.isExceeded, Route.choice]
            cases hmax : (r.enter o).total.max with
            | none => rfl
            | some m =>
                have := hk.within m hmax
                simp only [decide_eq_false_iff_not]
                omega
        · simp at hown
      · have hoff := isOffered_of_mem_groups hm
        obtain ⟨k', hk'⟩ := hk.member hs hi hoff
        have hmem : m.trim v ∈ Particle.restrictAll v members :=
          Particle.mem_restrictAll.mpr ⟨m, List.mem_of_getElem? hi, hoff, rfl⟩
        exact ih m (List.mem_of_getElem? hi) (hmembers _ hmem) (hs.member hi) hk' f hm taken ht

theorem root {A : Language Kind} (hw : F.map Slot.kind ∈ A) : Accounts F A .root 1 := by
  have hword : spelled Route.root.path F ∈ A ^ 1 := by
    rw [pow_one, spelled, Route.root, under_nil]
    exact hw
  refine ⟨hword, fun m hm => ?_, fun _ => Nat.le_refl 1, fun _ => Nat.le_refl 1, Nat.one_ne_zero⟩
  obtain rfl : 1 = m := by simpa [Route.root, Occurs.once] using hm
  exact Nat.min_le_left _ _

end Accounts

theorem not_isStranger_of_mem_language (hd : (p.offeredKinds v).Nodup) {children : List Element}
    (hu : ∀ e ∈ children, e.node.isUnknown = false)
    (hw : children.filterMap Element.kind? ∈ p.language v) :
    ∀ e ∈ children, ¬(ofParticle v p).IsStranger e := by
  intro e he hstr
  have hue := hu e he
  rw [IsStranger] at hstr
  cases hn : e.node with
  | typed k i cap =>
      have hk : k ∈ children.filterMap Element.kind? :=
        List.mem_filterMap.mpr ⟨e, he, by simp [Element.kind?, Node.kind?, hn]⟩
      rw [hn, kinds_ofParticle hd] at hstr
      exact hstr (Particle.mem_kindsOf_of_mem_bodyWords hw hk)
  | unknown name address => simp [hn, Node.isUnknown] at hue
  | comment text => simp [hn] at hstr
  | instruction text => simp [hn] at hstr
  | wrapper w => simp [hn] at hstr

theorem approved_of_mem_language (hd : (p.offeredKinds v).Nodup)
    (hc : ∀ q ∈ p.restrict v, q.Everywhere Particle.Decisive) (hcap : F.length ≤ countCap)
    (hF : ∀ s ∈ F, s ∈ (outline v p .root 0).slots) (hw : F.map Slot.kind ∈ p.language v) :
    F.IsChain (fun a b => b.precedes a = false) ∧ Approved F (outline v p .root 0) := by
  cases hp : p.isOffered v with
  | false =>
      have hnil : F = [] := List.eq_nil_iff_forall_not_mem.mpr fun s hs => by
        simp [isOffered_of_mem_slots (hF s hs)] at hp
      refine ⟨by simp [hnil], ⟨fun s hs => ?_, fun f hf => ?_⟩⟩
      · simp [isOffered_of_mem_slots hs] at hp
      · simp [isOffered_of_mem_groups hf] at hp
  | true =>
      have hs := Stands.root hF hd
      have hwords : F.map Slot.kind ∈ (p.trim v).words := by
        simpa [Particle.language, Particle.restrict_eq, hp, Particle.bodyWords, Compositor.unit,
          Compositor.join] using hw
      have h := Accounts.root hwords
      have hdecisive : (p.trim v).Everywhere Particle.Decisive :=
        hc _ (by simp [Particle.restrict_eq, hp])
      have hord := h.ordered hs hp
      rw [Route.root, under_nil] at hord
      exact ⟨hord.isChain, ⟨h.slots hcap hs, h.choices hcap hdecisive hs⟩⟩

/-- Content that spells a word of its model gives no finding. -/
theorem contentFindings_eq_nil_of_mem_language (hd : (p.offeredKinds v).Nodup)
    (hc : ∀ q ∈ p.restrict v, q.Everywhere Particle.Decisive) (parent : NodeRef)
    (children : List Element) (hlen : children.length < 2 ^ 32)
    (hu : ∀ e ∈ children, e.node.isUnknown = false)
    (hw : children.filterMap Element.kind? ∈ p.language v) :
    contentFindings (ofParticle v p) parent children = [] := by
  have hstr := not_isStranger_of_mem_language hd hu hw
  have hcap : ((ofParticle v p).filledBy children).length ≤ countCap := by
    have : ((ofParticle v p).filledBy children).length ≤ children.length :=
      List.length_filterMap_le _ _
    simp only [countCap]
    omega
  rw [← map_kind_filledBy hstr] at hw
  rw [contentFindings_ofParticle_eq_nil_iff hd parent children rfl]
  exact ⟨hstr, approved_of_mem_language hd hc hcap (mem_outline_of_mem_filledBy hd) hw⟩

theorem contentFindings_eq_nil_of_two_rounds :
    contentFindings
      (ofParticle .office2007 (.group .sequence ⟨0, some 2⟩
        [.leaf ⟨⟨"a"⟩, .once, none⟩,
         .group .choice .once
          [.leaf ⟨⟨"b"⟩, .oneOrMore, none⟩, .leaf ⟨⟨"c"⟩, .once, some .office2010⟩]]))
      ⟨[], ⟨"p", 1⟩, none⟩
      (["a", "b", "b", "a", "b"].map (fun k => .ofNode (.typed ⟨k⟩ ⟨0, k⟩ .empty))) = [] := by
  apply contentFindings_eq_nil_of_mem_language
  · decide
  · intro q hq
    obtain rfl : q = .group .sequence ⟨0, some 2⟩ [.leaf ⟨⟨"a"⟩, .once, none⟩,
        .group .choice .once [.leaf ⟨⟨"b"⟩, .oneOrMore, none⟩]] := List.mem_singleton.mp hq
    refine ⟨trivial, trivial, ⟨fun _ m hm => ?_, trivial, trivial⟩, trivial⟩
    obtain rfl := List.mem_singleton.mp hm
    rintro ⟨n, ⟨hmin, -⟩, hn⟩
    have := congrArg List.length (eq_replicate_of_mem_pow hn)
    simp only [Occurs.oneOrMore, List.length_nil, List.length_replicate] at hmin this
    omega
  · decide
  · decide
  · have ha : [⟨"a"⟩] ∈ (Particle.leaf ⟨⟨"a"⟩, .once, none⟩).words :=
      ⟨1, by simp [Occurs.Admits, Occurs.once], replicate_mem_pow _ 1⟩
    have hb (n : Nat) (hn : 1 ≤ n) : List.replicate n ⟨"b"⟩ ∈
        Particle.bodyWords .sequence
          [.group .choice .once [.leaf ⟨⟨"b"⟩, .oneOrMore, none⟩]] := by
      rw [Particle.bodyWords_cons]
      refine Language.mem_mul.mpr ⟨_, ?_, [], rfl, List.append_nil _⟩
      refine ⟨1, by simp [Occurs.Admits, Occurs.once], ?_⟩
      rw [pow_one, Particle.mem_bodyWords_choice]
      exact ⟨_, List.mem_cons_self, n, by simpa [Occurs.Admits, Occurs.oneOrMore] using hn,
        replicate_mem_pow _ n⟩
    refine Language.mem_mul.mpr
      ⟨[⟨"a"⟩, ⟨"b"⟩, ⟨"b"⟩, ⟨"a"⟩, ⟨"b"⟩], ⟨2, by simp [Occurs.Admits], ?_⟩, [], rfl, rfl⟩
    rw [pow_two]
    exact Language.append_mem_mul (Language.append_mem_mul ha (hb 2 (by decide)))
      (Language.append_mem_mul ha (hb 1 (by decide)))

end Model

end OfficeSchema
