import OfficeSchema.Proofs.Content.Repetition

namespace OfficeSchema

/-- A choice that counts a member offers a kind, at whatever depth. -/
def Particle.Furnished (v : Version) : Particle → Prop
  | .group .choice _ members => 0 < members.countP (isOffered v) →
      ∃ m ∈ members, m.offeredKinds v ≠ []
  | _ => True

instance (v : Version) : DecidablePred (Particle.Furnished v)
  | .leaf _ => inferInstanceAs (Decidable True)
  | .group .sequence _ _ => inferInstanceAs (Decidable True)
  | .group .all _ _ => inferInstanceAs (Decidable True)
  | .group .choice _ members => inferInstanceAs (Decidable (0 < members.countP _ →
      ∃ m ∈ members, m.offeredKinds v ≠ []))

namespace Model

variable {v : Version} {p : Particle} {c : Compositor} {o : Occurs} {members : List Particle}
  {r : Route} {n : Nat} {m : Model} {f : ChoiceGroup} {F : List Slot}

def Peopled (d : Model) : Prop :=
  ∀ f ∈ d.groups, ∃ s ∈ d.slots, ∃ a, f.place ++ [⟨0, a⟩] <+: s.path

theorem furnished_of_peopled (h : Peopled (outline v (.group c o members) r n)) :
    Particle.Furnished v (.group c o members) := by
  cases c with
  | sequence => trivial
  | all => trivial
  | choice =>
      intro hpos
      obtain ⟨s, hs, -⟩ := h ((r.enter o).choice o)
        (mem_groups_group.mpr (.inl (mem_ownChoice.mpr ⟨⟨rfl, hpos⟩, rfl⟩)))
      obtain ⟨i, q, hi, hs⟩ := mem_slots_group.mp hs
      refine ⟨q, List.mem_of_getElem? hi, List.ne_nil_of_mem (a := s.kind) ?_⟩
      rw [← kinds_outline v q]
      exact List.mem_map_of_mem hs

theorem peopled_member (h : Peopled (outline v (.group c o members) r n)) {i : Nat} {q : Particle}
    (hi : members[i]? = some q) : Peopled (intoOutline v c o members r n i q) := by
  intro f hf
  obtain ⟨s, hs, a, hpath⟩ := h f (mem_groups_group.mpr (.inr ⟨i, q, hi, hf⟩))
  have hbelow := (choice_below hf).trans ((List.prefix_append _ _).trans hpath)
  exact ⟨s, mem_into_of_below hs hi hbelow, a, hpath⟩

theorem peopled_outline_iff : Peopled (outline v p r n) ↔ p.Everywhere (Particle.Furnished v) := by
  induction p generalizing r n with
  | leaf l => simp [Peopled, outline, Particle.Everywhere, Particle.Furnished]
  | group c o members ih =>
      rw [Particle.everywhere_group]
      constructor
      · intro h
        refine ⟨furnished_of_peopled h, fun q hq => ?_⟩
        obtain ⟨i, hi⟩ := List.mem_iff_getElem?.mp hq
        exact (ih q hq).mp (peopled_member h hi)
      · rintro ⟨hself, hmembers⟩ f hf
        rcases mem_groups_group.mp hf with hown | ⟨i, q, hi, hf⟩
        · obtain ⟨⟨rfl, hpos⟩, rfl⟩ := mem_ownChoice.mp hown
          obtain ⟨q, hq, hkinds⟩ := hself hpos
          obtain ⟨i, hi⟩ := List.mem_iff_getElem?.mp hq
          obtain ⟨k, hk⟩ := List.exists_mem_of_ne_nil _ hkinds
          obtain ⟨s, hs, -, hpath⟩ := exists_slot_of_offered hi hk
          exact ⟨s, hs, i, hpath⟩
        · have hq := List.mem_of_getElem? hi
          obtain ⟨s, hs, a, hpath⟩ := (ih q hq).mpr (hmembers q hq) f hf
          exact ⟨s, mem_slots_group.mpr ⟨i, q, hi, hs⟩, a, hpath⟩

theorem kinds_ne_nil_iff (hm : m.Nested) (hf : f ∈ m.groups) :
    f.kinds ≠ [] ↔ ∃ s ∈ m.slots, ∃ a, f.place ++ [⟨0, a⟩] <+: s.path := by
  obtain ⟨i, hi⟩ := List.mem_iff_getElem?.mp hf
  constructor
  · intro h
    obtain ⟨k, hk⟩ := List.exists_mem_of_ne_nil _ h
    obtain ⟨s, hs, rfl⟩ : ∃ s ∈ m.slots, s.kind = k := by
      rw [hm.listed i f hi] at hk
      exact List.mem_map.mp ((List.filter_sublist.map _).subset hk)
    exact ⟨s, hs, (hm.kind_mem_iff hi hs).mp hk⟩
  · rintro ⟨s, hs, hpath⟩
    exact List.ne_nil_of_mem ((hm.kind_mem_iff hi hs).mpr hpath)

theorem choices_listed_iff (hd : (p.offeredKinds v).Nodup) :
    (∀ f ∈ (ofParticle v p).groups, f.kinds ≠ []) ↔ p.Everywhere (Particle.Furnished v) := by
  rw [← peopled_outline_iff (r := .root) (n := 0), Peopled, ← ofParticle_groups,
    List.forall_mem_map, ← ofParticle_slots_of_nodup hd]
  exact forall₂_congr fun f hf => kinds_ne_nil_iff (nested_ofParticle v p) hf

theorem lacks_of_expected_nil {q : Requirement} (hq : q.expected = []) (hleast : q.least = 1) :
    lacks F q = (Progress.after F).isDemanded q.place q.presence := by
  simp [lacks, met, hq, hleast]

/-- Content is found incomplete, and nothing is named that would complete it. -/
def Hopeless (m : Model) (parent : NodeRef) (children : List Element) : Prop :=
  ∃ x ∈ contentFindings m parent children, ∃ element, x.defect = .incomplete element []

theorem hopeless_iff (hm : m.Nested) {parent : NodeRef} {children : List Element} :
    m.Hopeless parent children ↔ ∃ f ∈ m.groups, f.kinds = [] ∧
      (Progress.after (m.filledBy children)).isDemanded f.place f.presence = true := by
  rw [Hopeless, contentFindings_eq_append, missing_eq hm fun s hs => mem_slots_of_mem_filledBy hs,
    List.map_map]
  constructor
  · rintro ⟨x, hx, element, he⟩
    rcases List.mem_append.mp hx with hx | hx
    · have hrule := rule_mem_childRules hx
      simp [he, Defect.rule, childRules] at hrule
    obtain ⟨q, hq, rfl⟩ := List.mem_map.mp hx
    obtain ⟨hq, hlacks⟩ := List.mem_filter.mp hq
    have hnil : q.expected = [] := (Defect.incomplete.inj he).2
    rcases List.mem_append.mp hq with hq | hq
    · obtain ⟨s, -, rfl⟩ := List.mem_map.mp hq
      simp [Slot.requirement] at hnil
    · obtain ⟨f, hf, rfl⟩ := List.mem_map.mp hq
      exact ⟨f, hf, hnil, (lacks_of_expected_nil hnil rfl).symm.trans hlacks⟩
  · rintro ⟨f, hf, hnil, hdemanded⟩
    have hq : f.requirement ∈ m.requirements.filter (lacks (m.filledBy children)) := by
      refine List.mem_filter.mpr ⟨List.mem_append_right _ (List.mem_map_of_mem hf), ?_⟩
      exact (lacks_of_expected_nil hnil rfl).trans hdemanded
    refine ⟨_, List.mem_append_right _ (List.mem_map_of_mem hq), parent.element, ?_⟩
    simp [Finding.ofDefect, ChoiceGroup.requirement, hnil]

theorem exists_hopeless_iff (hm : m.Nested) : (∃ parent children, m.Hopeless parent children) ↔
    ∃ f ∈ m.groups, f.kinds = [] ∧ m.Askable f.requirement := by
  simp only [hopeless_iff hm]
  constructor
  · rintro ⟨parent, children, f, hf, hnil, hdemanded⟩
    refine ⟨f, hf, hnil, askable_of_lacks (F := m.filledBy children)
      (fun s hs => mem_slots_of_mem_filledBy hs) ?_ ?_⟩
    · simp [met, ChoiceGroup.requirement, hnil]
    · exact (lacks_of_expected_nil hnil rfl).trans hdemanded
  · rintro ⟨f, hf, hnil, hask⟩
    obtain ⟨F, hF, -, hdemanded⟩ := exists_filling hask
    refine ⟨⟨[], ⟨"", 1⟩, none⟩, filling F, f, hf, hnil, ?_⟩
    rwa [filledBy_filling hm.regular hF]

/-- The choice groups of a model have kinds exactly if every choice that counts a member offers one.
One without kinds makes content hopeless wherever it is asked for, and all content if it is
required. -/
theorem choices_furnished_iff (v : Version) (p : Particle) (hd : (p.offeredKinds v).Nodup) :
    let m := ofParticle v p
    ((∀ f ∈ m.groups, f.kinds ≠ []) ↔ p.Everywhere (Particle.Furnished v)) ∧
      ((∀ parent children, ¬m.Hopeless parent children) ↔
        ∀ f ∈ m.groups, f.kinds = [] → ¬m.Askable f.requirement) ∧
      ((∀ parent children, m.Hopeless parent children) ↔
        ∃ f ∈ m.groups, f.kinds = [] ∧ f.presence = .required) := by
  intro m
  have hm : m.Nested := nested_ofParticle v p
  refine ⟨choices_listed_iff hd, ?_, ?_⟩
  · have h := not_congr (exists_hopeless_iff hm)
    simpa only [not_exists, not_and] using h
  · simp only [hopeless_iff hm]
    constructor
    · intro h
      -- without children only what is required is asked for
      obtain ⟨f, hf, hnil, hdemanded⟩ := h ⟨[], ⟨"", 1⟩, none⟩ []
      refine ⟨f, hf, hnil, ?_⟩
      cases hp : f.presence with
      | optional => simp [hp, Progress.isDemanded] at hdemanded
      | required => rfl
      | within k =>
        simp [hp, Progress.isDemanded, Progress.reaches, filledBy, Progress.after] at hdemanded
    · rintro ⟨f, hf, hnil, hp⟩ parent children
      exact ⟨f, hf, hnil, by rw [hp]; rfl⟩

theorem choices_furnished_iff_inner_kind :
    let p : Particle := .group .choice .once [.group .sequence .once
      [.leaf ⟨⟨"a"⟩, .once, some .office2010⟩, .leaf ⟨⟨"b"⟩, .optional, none⟩],
      .leaf ⟨⟨"c"⟩, .once, some .office2013⟩]
    let m := ofParticle .office2007 p
    m.groups.map ChoiceGroup.kinds = [[⟨"b"⟩]] ∧
      ∀ parent children, ¬m.Hopeless parent children := by
  intro p m
  have h := choices_furnished_iff .office2007 p (by decide)
  have hkinds : ∀ f ∈ m.groups, f.kinds ≠ [] := h.1.mpr (by decide)
  exact ⟨rfl, h.2.1.mpr fun f hf hnil => absurd hnil (hkinds f hf)⟩

/-- A choice counts a sequence that the version leaves without kinds, and asks for one of none. -/
theorem hopeless_of_bare_sequence :
    let p : Particle := .group .choice .once
      [.group .sequence .once [.leaf ⟨⟨"a"⟩, .once, some .office2010⟩]]
    let parent : NodeRef := ⟨[], ⟨"p", 1⟩, none⟩
    p.kinds.Nodup ∧ p.offeredKinds .office2007 = [] ∧
      (ofParticle .office2007 p).groups.map ChoiceGroup.kinds = [[]] ∧
      contentFindings (ofParticle .office2007 p) parent [] =
        [.ofDefect parent (.incomplete "p" [])] := by
  intro p parent
  exact ⟨by decide, rfl, rfl, rfl⟩

end Model

end OfficeSchema
