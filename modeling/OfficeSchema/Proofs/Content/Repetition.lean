import OfficeSchema.Proofs.Content.Wording

namespace OfficeSchema

structure Requirement where
  expected : List Kind
  place : Path
  presence : Presence
  least : Nat

def Slot.requirement (s : Slot) : Requirement := ⟨[s.kind], s.path, s.presence, s.minCount⟩

def ChoiceGroup.requirement (f : ChoiceGroup) : Requirement := ⟨f.kinds, f.place, f.presence, 1⟩

namespace Model

variable {m : Model} {v : Version} {p : Particle} {r : Route} {n i i' a : Nat} {F : List Slot}
  {q q' : Requirement} {f f' : ChoiceGroup} {s : Slot} {parent : NodeRef}

def requirements (m : Model) : List Requirement :=
  m.slots.map Slot.requirement ++ m.groups.map ChoiceGroup.requirement

def met (F : List Slot) (q : Requirement) : Nat := F.countP (fun s => s.kind ∈ q.expected)

def lacks (F : List Slot) (q : Requirement) : Bool :=
  met F q < q.least && (Progress.after F).isDemanded q.place q.presence

theorem met_eq_zero_iff : met F q = 0 ↔ ∀ s ∈ F, s.kind ∉ q.expected := by
  simp [met, List.countP_eq_zero]

theorem isEmpty_alternatives (hm : m.Nested) (hF : ∀ s ∈ F, s ∈ m.slots)
    (hf : m.groups[i]? = some f) :
    ((Progress.after F).alternatives i).isEmpty = decide (met F f.requirement < 1) := by
  rw [Bool.eq_iff_iff, List.isEmpty_iff, decide_eq_true_eq, Nat.lt_one_iff, met_eq_zero_iff,
    List.eq_nil_iff_forall_not_mem]
  simp only [Progress.mem_alternatives]
  constructor
  · intro h s hs hk
    obtain ⟨a, ha⟩ := (hm.kind_mem_iff hf (hF s hs)).mp hk
    exact h a ⟨s, hs, (hm.chosen s (hF s hs) i f hf a).mpr ha⟩
  · rintro h a ⟨s, hs, ha⟩
    have hpath := (hm.chosen s (hF s hs) i f hf a).mp ha
    exact h s hs ((hm.kind_mem_iff hf (hF s hs)).mpr ⟨a, hpath⟩)

theorem missing_eq (hm : m.Nested) (hF : ∀ s ∈ F, s ∈ m.slots) (element : String) :
    (Progress.after F).missing m element =
      (m.requirements.filter (lacks F)).map (fun q => .incomplete element q.expected) := by
  rw [Progress.missing, requirements, List.filter_append, List.map_append, List.filter_map,
    List.filter_map, List.map_map, List.map_map]
  congr 1
  · congr 1
    apply List.filter_congr
    intro s _
    simp [lacks, met, Slot.requirement, Progress.count_after, Bool.beq_eq_decide_eq]
  · conv_rhs => rw [← List.zipIdx_map_fst 0 m.groups, List.filter_map, List.map_map]
    congr 1
    apply List.filter_congr
    intro c hc
    rw [isEmpty_alternatives hm hF (List.mem_zipIdx_iff_getElem?.mp hc)]
    rfl

theorem nodup_marks_iff (hm : m.Nested) (hb : ∀ f ∈ m.groups, f.total.max ≠ some 0)
    (parent : NodeRef) (children : List Element) :
    ((contentFindings m parent children).map Finding.mark).Nodup ↔
      ((m.requirements.filter (lacks (m.filledBy children))).map
        (fun q => Defect.listed q.expected)).Nodup := by
  have hchild : ((childFindings m parent .start (children.zip (parent.children children))).map
      Finding.mark).Nodup := by
    exact nodup_marks_childFindings hm hb (by simp [Progress.start])
      (NodeRef.nodup_zip_children parent children)
  have hmissing : ((((Progress.after (m.filledBy children)).missing m parent.element).map
      (.ofDefect parent)).map Finding.mark).Nodup ↔
        ((m.requirements.filter (lacks (m.filledBy children))).map
          (fun q => Defect.listed q.expected)).Nodup := by
    rw [nodup_marks_ofDefect, missing_eq hm fun s hs => mem_slots_of_mem_filledBy hs, List.map_map,
      List.Nodup, List.Nodup, List.pairwise_map, List.pairwise_map]
    exact List.Pairwise.iff fun q q' => not_congr (Defect.wording_incomplete_inj parent.element)
  rw [contentFindings_eq_append, List.map_append, List.nodup_append, hmissing]
  refine ⟨fun h => h.2.1, fun h => ⟨hchild, h, fun x hx y hy hxy => ?_⟩⟩
  obtain ⟨b, hb, rfl⟩ := List.mem_map.mp hx
  obtain ⟨c, hc, rfl⟩ := List.mem_map.mp hy
  have hrule : b.defect.rule = c.defect.rule := congrArg Prod.fst hxy
  have hmem := rule_mem_childRules hb
  rw [hrule, rule_of_mem_missingFindings hc] at hmem
  exact absurd hmem (by decide)

/-- Whether a requirement may be asked for while none of its kinds is there. -/
def Askable (m : Model) (q : Requirement) : Prop :=
  match q.presence with
  | .optional => False
  | .required => True
  | .within n => ∃ s ∈ m.slots, s.kind ∉ q.expected ∧ s.path.sharesPrefix q.place n = true

structure Doubled (m : Model) (q q' : Requirement) : Prop where
  same : q.expected = q'.expected
  first : m.Askable q
  second : m.Askable q'

def LackTogether (m : Model) (q q' : Requirement) : Prop :=
  ∃ F, (∀ s ∈ F, s ∈ m.slots) ∧ lacks F q = true ∧ lacks F q' = true

theorem askable_of_lacks (hF : ∀ s ∈ F, s ∈ m.slots) (hnone : met F q = 0)
    (h : lacks F q = true) : m.Askable q := by
  obtain ⟨-, hdemanded⟩ := Bool.and_eq_true_iff.mp h
  rw [met_eq_zero_iff] at hnone
  unfold Askable
  cases hq : q.presence with
  | optional => simp [hq, Progress.isDemanded] at hdemanded
  | required => trivial
  | within n =>
      rw [hq, Progress.isDemanded, Progress.reaches, List.any_eq_true] at hdemanded
      obtain ⟨s, hs, hshares⟩ := hdemanded
      have hs : s ∈ F := List.mem_reverse.mp hs
      exact ⟨s, hF s hs, hnone s hs, hshares⟩

theorem exists_filling (h : m.Askable q) : ∃ F, (∀ s ∈ F, s ∈ m.slots) ∧
    (∀ s ∈ F, s.kind ∉ q.expected) ∧ (Progress.after F).isDemanded q.place q.presence = true := by
  unfold Askable at h
  cases hq : q.presence with
  | optional => simp [hq] at h
  | required => exact ⟨[], by simp, by simp, rfl⟩
  | within n =>
      simp only [hq] at h
      obtain ⟨s, hs, hk, hshares⟩ := h
      exact ⟨[s], by simpa using hs, by simpa using hk, by
        simpa [Progress.isDemanded, Progress.reaches, Progress.after] using hshares⟩

theorem isDemanded_mono {G : List Slot} (hsub : ∀ s ∈ F, s ∈ G) {place : Path}
    {presence : Presence} (h : (Progress.after F).isDemanded place presence = true) :
    (Progress.after G).isDemanded place presence = true := by
  cases presence with
  | optional => exact h
  | required => rfl
  | within n =>
      simp only [Progress.isDemanded, Progress.reaches, Progress.after, List.any_eq_true,
        List.mem_reverse] at h ⊢
      obtain ⟨s, hs, hshares⟩ := h
      exact ⟨s, hsub s hs, hshares⟩

theorem Doubled.lackTogether (h : m.Doubled q q') (hq : q.least ≠ 0) (hq' : q'.least ≠ 0) :
    m.LackTogether q q' := by
  obtain ⟨F, hF, hk, hd⟩ := exists_filling h.first
  obtain ⟨F', hF', hk', hd'⟩ := exists_filling h.second
  have hnone : ∀ s ∈ F ++ F', s.kind ∉ q.expected := by
    intro s hs
    rcases List.mem_append.mp hs with hs | hs
    · exact hk s hs
    · exact h.same ▸ hk' s hs
  refine ⟨F ++ F', fun s hs => (List.mem_append.mp hs).elim (hF s) (hF' s), ?_, ?_⟩
  · rw [lacks, met_eq_zero_iff.mpr hnone, isDemanded_mono (fun _ => List.mem_append_left F') hd]
    simpa using Nat.pos_of_ne_zero hq
  · rw [lacks, met_eq_zero_iff.mpr (h.same ▸ hnone),
      isDemanded_mono (fun _ => List.mem_append_right F) hd']
    simpa using Nat.pos_of_ne_zero hq'

theorem minCount_ne_zero (hr : r.factor ≠ 0) (hs : s ∈ (outline v p r n).slots)
    (h : s.presence ≠ .optional) : s.minCount ≠ 0 := by
  induction p generalizing r n with
  | leaf l =>
      obtain ⟨-, rfl⟩ := mem_slots_leaf.mp hs
      exact capMul_ne_zero hr fun hmin => h (Presence.of_eq_optional_iff.mpr hmin)
  | group c o members ih =>
      obtain ⟨i, m, hi, hs⟩ := mem_slots_group.mp hs
      refine ih m (List.mem_of_getElem? hi) ?_ hs
      simp only [intoRoute, Route.member, Route.enter]
      split
      · exact Nat.one_ne_zero
      · split
        · exact Nat.one_ne_zero
        · next ho => exact capMul_ne_zero hr ho

theorem least_ne_zero (hq : q ∈ (ofParticle v p).requirements)
    (h : (ofParticle v p).Askable q) : q.least ≠ 0 := by
  rcases List.mem_append.mp hq with hq | hq
  · obtain ⟨s, hs, rfl⟩ := List.mem_map.mp hq
    refine minCount_ne_zero (r := .root) Nat.one_ne_zero (mem_outline_of_mem_slots hs) fun ho => ?_
    simp [Askable, Slot.requirement, ho] at h
  · obtain ⟨f, -, rfl⟩ := List.mem_map.mp hq
    exact Nat.one_ne_zero

theorem least_eq_one_of_same (hm : m.Regular) :
    m.requirements.Pairwise (fun q q' => q.expected = q'.expected → q'.least = 1) := by
  -- two slots do not name the same kind, so that the latter requirement is that of a choice
  rw [requirements, List.pairwise_append]
  refine ⟨?_, ?_, ?_⟩
  · have hkinds : m.slots.Pairwise (fun s t => s.kind ≠ t.kind) := List.pairwise_map.mp hm.nodup
    exact List.pairwise_map.mpr (hkinds.imp fun hne h => absurd (List.cons.inj h).1 hne)
  · exact List.pairwise_map.mpr (List.pairwise_of_forall fun _ _ _ => rfl)
  · intro q _ q' hq' _
    obtain ⟨f, -, rfl⟩ := List.mem_map.mp hq'
    rfl

theorem expected_mem_kinds (hm : m.Nested) (hq : q ∈ m.requirements) :
    ∀ k ∈ q.expected, k ∈ m.kinds := by
  intro k hk
  rcases List.mem_append.mp hq with hq | hq
  · obtain ⟨s, hs, rfl⟩ := List.mem_map.mp hq
    obtain rfl := List.mem_singleton.mp hk
    exact List.mem_map_of_mem hs
  · obtain ⟨f, hf, rfl⟩ := List.mem_map.mp hq
    obtain ⟨i, hi⟩ := List.mem_iff_getElem?.mp hf
    simp only [ChoiceGroup.requirement, hm.listed i f hi] at hk
    exact (List.filter_sublist.map _).subset hk

def filling (F : List Slot) : List Element :=
  F.map (fun s => .ofNode (.typed s.kind ⟨0, s.kind.name⟩ .empty))

theorem filledBy_filling (hm : m.Regular) (hF : ∀ s ∈ F, s ∈ m.slots) :
    m.filledBy (filling F) = F := by
  induction F with
  | nil => rfl
  | cons s F ih =>
      obtain ⟨hs, hF⟩ := List.forall_mem_cons.mp hF
      have hslot : m.slot? s.kind = some s := (find?_key_eq_some_iff hm.nodup).mpr ⟨hs, rfl⟩
      have hfirst : m.slotOf? (.ofNode (.typed s.kind ⟨0, s.kind.name⟩ .empty)) = some s := hslot
      have hrest := ih hF
      rw [filling] at hrest ⊢
      rw [List.map_cons, filledBy_cons, hfirst, hrest]
      rfl

theorem marks_nodup_iff (hm : m.Nested) (hb : ∀ f ∈ m.groups, f.total.max ≠ some 0) :
    (∀ parent children, ((contentFindings m parent children).map Finding.mark).Nodup) ↔
      m.requirements.Pairwise (fun q q' =>
        Defect.listed q.expected = Defect.listed q'.expected → ¬m.LackTogether q q') := by
  constructor
  · intro h
    rw [List.pairwise_iff_forall_sublist]
    rintro q q' hsub hlisted ⟨F, hF, hq, hq'⟩
    have hnodup := (nodup_marks_iff hm hb ⟨[], ⟨"", 1⟩, none⟩ (filling F)).mp (h _ _)
    rw [filledBy_filling hm.regular hF] at hnodup
    have hpair := hnodup.sublist ((hsub.filter (lacks F)).map _)
    simp [hq, hq', hlisted] at hpair
  · intro h parent children
    rw [nodup_marks_iff hm hb, List.Nodup, List.pairwise_map, List.pairwise_filter]
    exact h.imp fun hne hq hq' hlisted =>
      hne hlisted ⟨_, fun s hs => mem_slots_of_mem_filledBy hs, hq, hq'⟩

theorem doubled_of_lackTogether (hm : m.Nested) (hn : ∀ k ∈ m.kinds, '\x27' ∉ k.name.toList)
    (hsub : [q, q'].Sublist m.requirements)
    (h : Defect.listed q.expected = Defect.listed q'.expected) (hl : m.LackTogether q q') :
    m.Doubled q q' := by
  obtain ⟨F, hF, hq, hq'⟩ := hl
  have hmem : q ∈ m.requirements := hsub.subset (by simp)
  have hmem' : q' ∈ m.requirements := hsub.subset (by simp)
  have hsame : q.expected = q'.expected :=
    Defect.listed_inj (fun k hk => hn k (expected_mem_kinds hm hmem k hk))
      (fun k hk => hn k (expected_mem_kinds hm hmem' k hk)) h
  have hleast : q'.least = 1 :=
    List.pairwise_iff_forall_sublist.mp (least_eq_one_of_same hm.regular) hsub hsame
  have hnone' : met F q' = 0 := by
    have hlt := (Bool.and_eq_true_iff.mp hq').1
    rw [hleast, decide_eq_true_eq] at hlt
    exact Nat.lt_one_iff.mp hlt
  have hnone : met F q = 0 := by
    rw [met, hsame]
    exact hnone'
  exact ⟨hsame, askable_of_lacks hF hnone hq, askable_of_lacks hF hnone' hq'⟩

theorem pairwise_doubled_iff (hn : ∀ k ∈ (ofParticle v p).kinds, '\x27' ∉ k.name.toList) :
    (ofParticle v p).requirements.Pairwise (fun q q' =>
      Defect.listed q.expected = Defect.listed q'.expected →
        ¬(ofParticle v p).LackTogether q q') ↔
      (ofParticle v p).requirements.Pairwise (fun q q' => ¬(ofParticle v p).Doubled q q') := by
  rw [List.pairwise_iff_forall_sublist, List.pairwise_iff_forall_sublist]
  constructor
  · intro h q q' hsub hdouble
    refine h hsub (congrArg Defect.listed hdouble.same) ?_
    exact hdouble.lackTogether (least_ne_zero (hsub.subset (by simp)) hdouble.first)
      (least_ne_zero (hsub.subset (by simp)) hdouble.second)
  · intro h q q' hsub hlisted hl
    exact h hsub (doubled_of_lackTogether (nested_ofParticle v p) hn hsub hlisted hl)

def Rivalled (m : Model) (f : ChoiceGroup) : Prop :=
  ∀ a, ∃ b, b ≠ a ∧ ∃ s ∈ m.slots, f.place ++ [⟨0, b⟩] <+: s.path

theorem rivalled_ofParticle (hd : (p.offeredKinds v).Nodup)
    (hp : p.Everywhere (Particle.Contested v)) (hf : f ∈ (ofParticle v p).groups)
    (h : (ofParticle v p).Askable f.requirement) : (ofParticle v p).Rivalled f := by
  have hbare : f.bare ∈ (outline v p .root 0).groups := by
    rw [← ofParticle_groups]
    exact List.mem_map_of_mem hf
  rw [Rivalled, ofParticle_slots_of_nodup hd]
  refine exists_rival (f := f.bare) hp hbare fun ho => ?_
  have hpresence : f.presence = .optional := ho
  simp [Askable, ChoiceGroup.requirement, hpresence] at h

theorem kinds_ne_singleton (hm : m.Nested) (hf : m.groups[i]? = some f) (hr : m.Rivalled f)
    (hs : s ∈ m.slots) : f.kinds ≠ [s.kind] := by
  intro h
  have honly (b : Nat) (t : Slot) (ht : t ∈ m.slots) (hpath : f.place ++ [⟨0, b⟩] <+: t.path) :
      t = s := by
    have hkind := (hm.kind_mem_iff hf ht).mpr ⟨b, hpath⟩
    rw [h, List.mem_singleton] at hkind
    exact eq_of_kind_eq hm.regular ht hs hkind
  obtain ⟨a, -, t, ht, hta⟩ := hr 0
  obtain ⟨b, hne, u, hu, hub⟩ := hr a
  obtain rfl := honly a t ht hta
  obtain rfl := honly b u hu hub
  exact hne (alternative_unique hub hta)

theorem not_inside (hm : m.Nested) (hf : m.groups[i]? = some f) (hf' : m.groups[i']? = some f')
    (hr : m.Rivalled f) (h : f.kinds = f'.kinds) : ¬f.place ++ [⟨0, a⟩] <+: f'.place := by
  intro hin
  obtain ⟨b, hne, s, hs, hpath⟩ := hr a
  have hkind := (hm.kind_mem_iff hf hs).mpr ⟨b, hpath⟩
  rw [h] at hkind
  obtain ⟨c, hpath'⟩ := (hm.kind_mem_iff hf' hs).mp hkind
  exact hne (alternative_unique hpath ((hin.trans (List.prefix_append _ _)).trans hpath'))

theorem kinds_ne (hm : m.Nested) (hf : m.groups[i]? = some f) (hf' : m.groups[i']? = some f')
    (hne : i ≠ i') (hr : m.Rivalled f) (hr' : m.Rivalled f') : f.kinds ≠ f'.kinds := by
  intro h
  obtain ⟨a, -, s, hs, hpath⟩ := hr 0
  have hkind := (hm.kind_mem_iff hf hs).mpr ⟨a, hpath⟩
  rw [h] at hkind
  obtain ⟨b, hpath'⟩ := (hm.kind_mem_iff hf' hs).mp hkind
  rcases hm.inside_or_inside hf hf' hne hpath hpath' with hin | hin
  · exact not_inside hm hf hf' hr h hin
  · exact not_inside hm hf' hf hr' h.symm hin

theorem not_doubled_of_contested (hd : (p.offeredKinds v).Nodup)
    (hp : p.Everywhere (Particle.Contested v)) :
    (ofParticle v p).requirements.Pairwise (fun q q' => ¬(ofParticle v p).Doubled q q') := by
  have hm := nested_ofParticle v p
  rw [requirements, List.pairwise_append]
  refine ⟨?_, ?_, ?_⟩
  · have hkinds : (ofParticle v p).slots.Pairwise (fun s t => s.kind ≠ t.kind) :=
      List.pairwise_map.mp hm.regular.nodup
    exact List.pairwise_map.mpr (hkinds.imp fun hne h => hne (List.cons.inj h.same).1)
  · rw [List.pairwise_map, List.pairwise_iff_getElem]
    intro i i' hi hi' hlt h
    have hr := rivalled_ofParticle hd hp (List.getElem_mem hi) h.first
    have hr' := rivalled_ofParticle hd hp (List.getElem_mem hi') h.second
    exact kinds_ne hm (List.getElem?_eq_getElem hi) (List.getElem?_eq_getElem hi') hlt.ne hr hr'
      h.same
  · intro q hq q' hq' h
    obtain ⟨s, hs, rfl⟩ := List.mem_map.mp hq
    obtain ⟨f, hf, rfl⟩ := List.mem_map.mp hq'
    obtain ⟨i, hi⟩ := List.mem_iff_getElem?.mp hf
    exact kinds_ne_singleton hm hi (rivalled_ofParticle hd hp hf h.second) hs h.same.symm

/-- Findings on content repeat exactly where two requirements read alike and are lacking at once. By
names without quotes these are two that name the same kinds, which needs a choice that must be made
and one alternative of it with all of its kinds. -/
theorem content_findings_distinct (v : Version) (p : Particle)
    (hb : p.Everywhere Particle.Bounded) :
    let m := ofParticle v p
    let distinct := ∀ parent children,
      ((contentFindings m parent children).map Finding.mark).Nodup
    (distinct ↔ m.requirements.Pairwise (fun q q' =>
      Defect.listed q.expected = Defect.listed q'.expected → ¬m.LackTogether q q')) ∧
    ((∀ k ∈ p.offeredKinds v, '\x27' ∉ k.name.toList) →
      (distinct ↔ m.requirements.Pairwise (fun q q' => ¬m.Doubled q q')) ∧
      ((p.offeredKinds v).Nodup → p.Everywhere (Particle.Contested v) → distinct)) := by
  intro m distinct
  have hiff := marks_nodup_iff (nested_ofParticle v p) (bounded_ofParticle hb)
  refine ⟨hiff, fun hn => ?_⟩
  have hkinds : ∀ k ∈ m.kinds, '\x27' ∉ k.name.toList := by
    intro k hk
    obtain ⟨s, hs, rfl⟩ := List.mem_map.mp hk
    refine hn s.kind ?_
    rw [← kinds_outline v p .root 0]
    exact List.mem_map_of_mem (mem_outline_of_mem_slots hs)
  have hdoubled := hiff.trans (pairwise_doubled_iff hkinds)
  exact ⟨hdoubled, fun hd hp => hdoubled.mpr (not_doubled_of_contested hd hp)⟩

theorem content_findings_distinct_rivals :
    let p : Particle := .group .sequence .once [.leaf ⟨⟨"a"⟩, .once, none⟩,
      .group .choice .once [.leaf ⟨⟨"b"⟩, .once, none⟩, .leaf ⟨⟨"c"⟩, .oneOrMore, none⟩]]
    let parent : NodeRef := ⟨[], ⟨"p", 1⟩, none⟩
    let found := contentFindings (ofParticle .office2007 p) parent []
    found.length = 2 ∧ (found.map Finding.mark).Nodup := by
  intro p parent found
  have hdistinct := content_findings_distinct .office2007 p (by decide)
  have hn : ∀ k ∈ p.offeredKinds .office2007, '\x27' ∉ k.name.toList := by decide
  exact ⟨rfl, (hdistinct.2 hn).2 (by decide) (by decide) parent []⟩

/-- A choice of which `a` is the only alternative asks for `a` a second time. -/
theorem content_findings_repeated :
    let p : Particle := .group .choice .once [.leaf ⟨⟨"a"⟩, .once, none⟩]
    let parent : NodeRef := ⟨[], ⟨"p", 1⟩, none⟩
    let missing : Finding := .ofDefect parent (.incomplete "p" [⟨"a"⟩])
    p.Everywhere Particle.Bounded ∧ (p.offeredKinds .office2007).Nodup ∧
      contentFindings (ofParticle .office2007 p) parent [] = [missing, missing] := by
  exact ⟨by decide, by decide, rfl⟩

end Model

end OfficeSchema
