import OfficeSchema.Proofs.Content.Course
import OfficeSchema.Proofs.Document.References
import OfficeSchema.Proofs.Particle.Nesting

/-!
The wording of findings on content. Defects of a child differ in their words, so that no child is
found fault with twice: of two choices in which it takes one alternative too many, the inner one has
fewer rivals to name.
-/

namespace OfficeSchema

def Finding.mark (f : Finding) : String × String × NodeRef :=
  (f.defect.rule, f.defect.description, f.node)

namespace Defect

def listed (ks : List Kind) : String := Text.sepBy ", " (quoted (ks.map Kind.name))

theorem toList_listed_cons (k : Kind) (ks : List Kind) :
    (listed (k :: ks)).toList = '\x27' :: (k.name.toList ++ '\x27' ::
      match ks with
      | [] => []
      | _ :: _ => ',' :: ' ' :: (listed ks).toList) := by
  cases ks with
  | nil => simp [listed, quoted, Text.sepBy]
  | cons l ls => simp [listed, quoted, Text.sepBy]

theorem listed_cons_ne_nil (k : Kind) (ks : List Kind) : listed (k :: ks) ≠ listed [] := by
  intro h
  have hchars := congrArg String.toList h
  rw [toList_listed_cons] at hchars
  exact List.cons_ne_nil _ _ hchars

theorem listed_inj {ks ls : List Kind} (hks : ∀ k ∈ ks, '\x27' ∉ k.name.toList)
    (hls : ∀ l ∈ ls, '\x27' ∉ l.name.toList) (h : listed ks = listed ls) : ks = ls := by
  induction ks generalizing ls with
  | nil =>
      cases ls with
      | nil => rfl
      | cons l ls => exact absurd h.symm (listed_cons_ne_nil l ls)
  | cons k ks ih =>
      cases ls with
      | nil => exact absurd h (listed_cons_ne_nil k ks)
      | cons l ls =>
          obtain ⟨hk, hks⟩ := List.forall_mem_cons.mp hks
          obtain ⟨hl, hls⟩ := List.forall_mem_cons.mp hls
          have hchars := congrArg String.toList h
          rw [toList_listed_cons, toList_listed_cons] at hchars
          obtain ⟨hname, hrest⟩ := append_cons_inj hk hl (List.cons.inj hchars).2
          have hkl : k = l := congrArg Kind.mk (String.toList_inj.mp hname)
          have hkls : ks = ls := by
            cases ks <;> cases ls <;> simp only [List.cons.injEq, reduceCtorEq, true_and] at hrest
            · rfl
            · exact ih hks hls (String.toList_inj.mp hrest)
          rw [hkl, hkls]

def weight (ks : List Kind) : Nat := (ks.map (fun k => k.name.length + 4)).sum

theorem weight_cons (k : Kind) (ks : List Kind) :
    weight (k :: ks) = k.name.length + 4 + weight ks := rfl

theorem length_listed (ks : List Kind) : (listed ks).length = weight ks - 2 := by
  induction ks with
  | nil => rfl
  | cons k ks ih =>
      rw [← String.length_toList, toList_listed_cons, weight_cons]
      cases ks with
      | nil =>
          simp only [weight, List.length_cons, List.length_append, List.length_nil, List.map_nil,
            List.sum_nil, String.length_toList]
          omega
      | cons l ls =>
          simp only [List.length_cons, List.length_append, String.length_toList, ih, weight_cons]
          omega

theorem weight_le_of_sublist {ks ls : List Kind} (h : ks.Sublist ls) :
    ks = ls ∨ weight ks + 4 ≤ weight ls := by
  induction h with
  | slnil => exact .inl rfl
  | cons k h ih =>
      right
      rw [weight_cons]
      rcases ih with rfl | ih <;> omega
  | cons_cons k h ih =>
      rcases ih with rfl | ih
      · exact .inl rfl
      · right
        rw [weight_cons, weight_cons]
        omega

theorem length_listed_lt {ks ls : List Kind} (h : ks.Sublist ls) (hne : ks ≠ ls) :
    (listed ks).length < (listed ls).length := by
  have := (weight_le_of_sublist h).resolve_left hne
  rw [length_listed, length_listed]
  omega

def wording (d : Defect) : String × String := (d.rule, d.description)

theorem description_incomplete (element : String) (ks : List Kind) :
    description (.incomplete element ks) = "The element '" ++ element ++
      "' has incomplete content. List of possible elements expected: " ++ listed ks ++ "." :=
  rfl

theorem description_tooMany (element : String) (k : Kind) :
    description (.tooMany element k) =
      "The element '" ++ element ++ "' has too many '" ++ k.name ++ "' child elements." :=
  rfl

theorem description_tooManyAlternatives (element : String) (k : Kind) (rivals : List Kind) :
    description (.tooManyAlternatives element k rivals) =
      "The element '" ++ element ++ "' has too many alternatives: '" ++ k.name ++ "' " ++
        "cannot be combined with " ++ listed rivals ++ "." :=
  rfl

theorem wording_incomplete_inj (element : String) {ks ls : List Kind} :
    wording (.incomplete element ks) = wording (.incomplete element ls) ↔
      listed ks = listed ls := by
  rw [wording, wording, description_incomplete, description_incomplete, Prod.mk.injEq,
    String.append_left_inj, String.append_right_inj]
  exact and_iff_right rfl

theorem wording_tooManyAlternatives_ne (element : String) (k : Kind) {ks ls : List Kind}
    (h : (listed ks).length < (listed ls).length) :
    wording (.tooManyAlternatives element k ks) ≠ wording (.tooManyAlternatives element k ls) := by
  rw [wording, wording, description_tooManyAlternatives, description_tooManyAlternatives, ne_eq,
    Prod.mk.injEq, String.append_left_inj, String.append_right_inj]
  exact fun he => h.ne (congrArg String.length he.2)

theorem wording_tooMany_ne (element : String) (k : Kind) (rivals : List Kind) :
    wording (.tooMany element k) ≠ wording (.tooManyAlternatives element k rivals) := by
  intro h
  have htext := congrArg Prod.snd h
  simp only [wording, description_tooMany, description_tooManyAlternatives, String.append_assoc,
    ← String.toList_inj] at htext
  simp at htext

end Defect

theorem nodup_marks_ofDefect (r : NodeRef) (ds : List Defect) :
    ((ds.map (.ofDefect r)).map Finding.mark).Nodup ↔ (ds.map Defect.wording).Nodup := by
  rw [List.map_map, List.Nodup, List.Nodup, List.pairwise_map, List.pairwise_map]
  refine List.Pairwise.iff fun d e => ?_
  simp [Finding.mark, Finding.ofDefect, Defect.wording]

namespace Model

variable {m : Model} {g : Progress} {s : Slot} {f f' : ChoiceGroup} {i i' a a' : Nat}

structure OneTooMany (m : Model) (g : Progress) (s : Slot) (i : Nat) (f : ChoiceGroup) (a : Nat) :
    Prop where
  group : m.groups[i]? = some f
  chosen : s.choices.lookup i = some a
  new : a ∉ g.alternatives i
  exceeded : f.total.isExceeded ((g.alternatives i).length + 1) = true

def rivals (s : Slot) (f : ChoiceGroup) : List Kind := f.kinds.filter (fun k => k != s.kind)

theorem OneTooMany.exists_seen (h : m.OneTooMany g s i f a) (hb : f.total.max ≠ some 0) :
    ∃ t ∈ g.seen, ∃ b, b ≠ a ∧ t.choices.lookup i = some b := by
  have hne : g.alternatives i ≠ [] := by
    intro hnil
    have hexceeded := h.exceeded
    rw [hnil, Occurs.isExceeded] at hexceeded
    cases hmax : f.total.max with
    | none => simp [hmax] at hexceeded
    | some max =>
        simp only [hmax, List.length_nil, decide_eq_true_eq] at hexceeded
        exact hb (by rw [hmax, Nat.lt_one_iff.mp hexceeded])
  obtain ⟨b, hmem⟩ := List.exists_mem_of_ne_nil _ hne
  obtain ⟨t, ht, hlookup⟩ := Progress.mem_alternatives_iff.mp hmem
  refine ⟨t, ht, b, ?_, hlookup⟩
  rintro rfl
  exact h.new hmem

theorem OneTooMany.listed_rivals_lt (hm : m.Nested) (hs : s ∈ m.slots)
    (hg : ∀ t ∈ g.seen, t ∈ m.slots) (h : m.OneTooMany g s i f a) (hb : f.total.max ≠ some 0)
    (hf' : m.groups[i']? = some f') (hin : f.place ++ [⟨0, a⟩] <+: f'.place) :
    (Defect.listed (rivals s f')).length < (Defect.listed (rivals s f)).length := by
  -- the inner choice lacks the kind that took another alternative of the outer one
  obtain ⟨t, ht, b, hne, hlookup⟩ := h.exists_seen hb
  have ht := hg t ht
  have hpath := (hm.chosen t ht i f h.group b).mp hlookup
  refine Defect.length_listed_lt ((hm.kinds_sublist h.group hf' hin).filter _) fun heq => ?_
  have hkind : t.kind ∈ rivals s f := by
    refine List.mem_filter.mpr ⟨(hm.kind_mem_iff h.group ht).mpr ⟨b, hpath⟩, ?_⟩
    rw [bne_iff_ne]
    intro hk
    obtain rfl := eq_of_kind_eq hm.regular ht hs hk
    exact hne (Option.some.inj (hlookup.symm.trans h.chosen))
  rw [← heq] at hkind
  obtain ⟨b', hpath'⟩ := (hm.kind_mem_iff hf' ht).mp (List.mem_filter.mp hkind).1
  exact hne (alternative_unique hpath ((hin.trans (List.prefix_append _ _)).trans hpath'))

theorem wording_rivals_ne (hm : m.Nested) (hb : ∀ f ∈ m.groups, f.total.max ≠ some 0)
    (hs : s ∈ m.slots) (hg : ∀ t ∈ g.seen, t ∈ m.slots) (h : m.OneTooMany g s i f a)
    (h' : m.OneTooMany g s i' f' a') (hne : i ≠ i') (element : String) :
    Defect.wording (.tooManyAlternatives element s.kind (rivals s f)) ≠
      Defect.wording (.tooManyAlternatives element s.kind (rivals s f')) := by
  have hbf := hb f (List.mem_of_getElem? h.group)
  have hbf' := hb f' (List.mem_of_getElem? h'.group)
  have hpath := (hm.chosen s hs i f h.group a).mp h.chosen
  have hpath' := (hm.chosen s hs i' f' h'.group a').mp h'.chosen
  rcases hm.inside_or_inside h.group h'.group hne hpath hpath' with hin | hin
  · exact (Defect.wording_tooManyAlternatives_ne element s.kind
      (h.listed_rivals_lt hm hs hg hbf h'.group hin)).symm
  · exact Defect.wording_tooManyAlternatives_ne element s.kind
      (h'.listed_rivals_lt hm hs hg hbf' h.group hin)

theorem oneTooMany_of_eq_some (hord : s.choices.Pairwise (fun b c => b.1 < c.1)) {c : Nat × Nat}
    (hc : c ∈ s.choices) (h : (match m.groups[c.1]? with
      | some group =>
          if !(g.alternatives c.1).contains c.2 &&
            group.total.isExceeded ((g.alternatives c.1).length + 1) then some group else none
      | none => none) = some f) : m.OneTooMany g s c.1 f c.2 := by
  split at h
  · next f' hf =>
      obtain ⟨hover, he⟩ := Option.ite_none_right_eq_some.mp h
      obtain rfl := Option.some.inj he
      simp only [Bool.and_eq_true, Bool.not_eq_true', List.contains_eq_mem,
        decide_eq_false_iff_not] at hover
      exact ⟨hf, (lookup_eq_some_iff hord c.1 c.2).mpr hc, hover.1, hover.2⟩
  · simp at h

theorem nodup_wording_overfull (hm : m.Nested) (hb : ∀ f ∈ m.groups, f.total.max ≠ some 0)
    (hs : s ∈ m.slots) (hg : ∀ t ∈ g.seen, t ∈ m.slots) (element : String) :
    (((g.overfull m s).map (fun f => Defect.tooManyAlternatives element s.kind (rivals s f))).map
      Defect.wording).Nodup := by
  have hord := hm.regular.ordered s hs
  rw [List.map_map, List.Nodup, List.pairwise_map, Progress.overfull, List.pairwise_filterMap]
  refine hord.imp_of_mem fun {c c'} hc hc' hlt f hf f' hf' => ?_
  exact wording_rivals_ne hm hb hs hg (oneTooMany_of_eq_some hord hc hf)
    (oneTooMany_of_eq_some hord hc' hf') hlt.ne element

theorem nodup_wording_slotDefects (hm : m.Nested) (hb : ∀ f ∈ m.groups, f.total.max ≠ some 0)
    (hs : s ∈ m.slots) (hg : ∀ t ∈ g.seen, t ∈ m.slots) (element : String) :
    ((g.slotDefects m element s).map Defect.wording).Nodup := by
  have hover := nodup_wording_overfull hm hb hs hg element
  rw [Progress.slotDefects, List.map_append, List.map_append, List.append_assoc,
    List.nodup_append, List.nodup_append]
  refine ⟨?_, ⟨?_, hover, ?_⟩, ?_⟩
  · split <;> simp
  · split <;> simp
  · intro x hx y hy
    obtain ⟨d, hd, rfl⟩ := List.mem_map.mp hx
    obtain ⟨e, he, rfl⟩ := List.mem_map.mp hy
    obtain ⟨-, rfl⟩ := by simpa using hd
    obtain ⟨f, -, rfl⟩ := List.mem_map.mp he
    exact Defect.wording_tooMany_ne element s.kind _
  · intro x hx y hy
    obtain ⟨d, hd, rfl⟩ := List.mem_map.mp hx
    obtain ⟨-, rfl⟩ := by simpa using hd
    rw [← List.map_append] at hy
    obtain ⟨e, he, rfl⟩ := List.mem_map.mp hy
    have hrule : e.rule = "Sch_TooManyElements" := by
      rcases List.mem_append.mp he with he | he
      · obtain ⟨-, rfl⟩ := by simpa using he
        rfl
      · obtain ⟨f, -, rfl⟩ := List.mem_map.mp he
        rfl
    intro h
    have hsame : "Sch_UnexpectedElementContent" = e.rule := congrArg Prod.fst h
    exact absurd (hsame.trans hrule) (by decide)

variable {parent : NodeRef} {cs : List (Element × NodeRef)} {children : List Element}

theorem mark_childFindings_ne {r : NodeRef} (hr : r ∉ cs.map Prod.snd) {d : Defect}
    {x : Finding} (hx : x ∈ childFindings m parent g cs) : (Finding.ofDefect r d).mark ≠ x.mark := by
  intro h
  obtain ⟨c, hc, e, -, rfl⟩ := exists_of_mem_childFindings hx
  have hnode : r = c.2 := congrArg (fun w => w.2.2) h
  exact hr (hnode ▸ List.mem_map_of_mem hc)

theorem nodup_marks_childFindings (hm : m.Nested) (hb : ∀ f ∈ m.groups, f.total.max ≠ some 0)
    (hg : ∀ t ∈ g.seen, t ∈ m.slots) (hn : (cs.map Prod.snd).Nodup) :
    ((childFindings m parent g cs).map Finding.mark).Nodup := by
  induction cs generalizing g with
  | nil => exact .nil
  | cons c cs ih =>
      obtain ⟨c, r⟩ := c
      obtain ⟨hr, hn⟩ := List.nodup_cons.mp hn
      have hrole := role_spec m c
      rw [childFindings]
      cases hc : c.node.role m with
      | slot s =>
          rw [hc] at hrole
          obtain ⟨k, -, hk⟩ := Option.bind_eq_some_iff.mp hrole.1
          have hs := (slot?_mem hk).1
          dsimp only
          rw [List.map_append, List.nodup_append]
          refine ⟨?_, ih (fun t ht => ?_) hn, ?_⟩
          · have hwording := nodup_wording_slotDefects hm hb hs hg parent.element
            exact (nodup_marks_ofDefect r _).mpr hwording
          · rcases List.mem_cons.mp ht with rfl | ht
            · exact hs
            · exact hg t ht
          · intro y hy z hz
            obtain ⟨_, hd, rfl⟩ := List.mem_map.mp hy
            obtain ⟨d, -, rfl⟩ := List.mem_map.mp hd
            obtain ⟨x, hx, rfl⟩ := List.mem_map.mp hz
            exact mark_childFindings_ne hr hx
      | stranger name =>
          dsimp only
          rw [List.map_cons, List.nodup_cons]
          refine ⟨fun h => ?_, ih hg hn⟩
          obtain ⟨x, hx, he⟩ := List.mem_map.mp h
          exact mark_childFindings_ne hr hx he.symm
      | ignored => exact ih hg hn

end Model

end OfficeSchema
