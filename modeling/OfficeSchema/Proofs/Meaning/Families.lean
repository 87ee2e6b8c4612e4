import Mathlib.Data.List.Flatten
import OfficeSchema.Proofs.Meaning.Rules

namespace OfficeSchema

def Declaration.onlyFor (f : Family) (d : Declaration) : Declaration :=
  { d with constraints := d.constraints.filter (fun c => c.family.appliesTo f) }

def Registry.onlyFor (r : Registry) (f : Family) : Registry :=
  { r with entries := r.entries.map (fun e => { e with declaration := e.declaration.onlyFor f }) }

def Context.withoutForeign (c : Context) : Context :=
  { c with registry := c.registry.onlyFor c.family }

/-- No kind asks for unique values of one attribute both within a family and outside of it. -/
def Registry.Separates (r : Registry) (f : Family) : Prop :=
  ∀ k d, r.lookup? k = some d → ∀ c ∈ d.constraints, ∀ c' ∈ d.constraints,
    c.family.appliesTo f = true → c'.family.appliesTo f = false →
      ∀ attr, c.rule.uniqueAttr? = some attr → c'.rule.uniqueAttr? ≠ some attr

variable {r : Registry} {f : Family} {k : Kind} {v : Visited} {vs : List Visited} {m : Mark}

theorem Registry.lookup?_onlyFor (r : Registry) (f : Family) (k : Kind) :
    (r.onlyFor f).lookup? k = (r.lookup? k).map (Declaration.onlyFor f) := by
  have hkey : (fun e : Registration => e.declaration.kind == k) ∘
      (fun e : Registration => { e with declaration := e.declaration.onlyFor f }) =
        fun e => e.declaration.kind == k := rfl
  rw [lookup?, lookup?, entry?, entry?, onlyFor, List.find?_map, hkey, Option.map_map,
    Option.map_map]
  rfl

theorem Registry.eq_of_lookup?_alone {ver : Version} {t : Namespace.Table} {d e : Declaration}
    {content? : Option Content}
    (h : lookup? ⟨ver, t, [⟨d, content?⟩]⟩ k = some e) : e = d := by
  obtain ⟨entry, hentry, rfl⟩ := Option.map_eq_some_iff.mp h
  rw [List.mem_singleton.mp (List.mem_of_find?_eq_some hentry)]

theorem constraintsFor_onlyFor (r : Registry) (f : Family) (v : Visited) :
    constraintsFor (r.onlyFor f) f v = constraintsFor r f v := by
  rw [constraintsFor, constraintsFor, Registry.lookup?_onlyFor]
  cases r.lookup? v.kind with
  | none => rfl
  | some d =>
      simp only [Option.map_some, Declaration.onlyFor, List.filter_filter, Bool.and_self]

theorem mem_constraintsFor {c : Constraint} : c ∈ constraintsFor r f v ↔
    ∃ d, r.lookup? v.kind = some d ∧ c ∈ d.constraints ∧ c.family.appliesTo f = true := by
  rw [constraintsFor]
  cases r.lookup? v.kind <;> simp

namespace ValueIndex

def markers (r : Registry) (v : Visited) (m : Mark) : List Constraint :=
  match r.lookup? v.kind with
  | some d => d.constraints.filter (fun c => markOf? v c.rule == some m)
  | none => []

theorem count_marks_eq (r : Registry) (vs : List Visited) (m : Mark) :
    (marks r vs).count m = (vs.flatMap (fun v => markers r v m)).length := by
  rw [marks, List.count_flatMap, List.length_flatMap]
  congr 1
  apply List.map_congr_left
  intro v _
  rw [Function.comp_apply, List.count_filterMap, rulesOf, markers]
  cases r.lookup? v.kind with
  | none => rfl
  | some d =>
      dsimp only
      rw [List.countP_map, List.countP_eq_length_filter]
      rfl

theorem markers_onlyFor (r : Registry) (f : Family) (v : Visited) (m : Mark) :
    markers (r.onlyFor f) v m = (markers r v m).filter (fun c => c.family.appliesTo f) := by
  rw [markers, markers, Registry.lookup?_onlyFor]
  cases r.lookup? v.kind with
  | none => rfl
  | some d => exact List.filter_comm _ _ _

theorem exists_of_mem_markers {c : Constraint} (h : c ∈ markers r v m) :
    ∃ d, r.lookup? v.kind = some d ∧ c ∈ d.constraints ∧ m.kind = v.kind ∧
      c.rule.uniqueAttr? = some m.attr := by
  rw [markers] at h
  split at h
  · next d hd =>
      obtain ⟨hc, hm⟩ := List.mem_filter.mp h
      exact ⟨d, hd, hc, asked_of_markOf? (beq_iff_eq.mp hm)⟩
  · simp at h

theorem marks_onlyFor_sublist (r : Registry) (f : Family) (vs : List Visited) :
    (marks (r.onlyFor f) vs).Sublist (marks r vs) := by
  apply List.Sublist.flatMap_right
  intro v _
  apply List.Sublist.filterMap
  rw [rulesOf, rulesOf, Registry.lookup?_onlyFor]
  cases r.lookup? v.kind with
  | none => exact .slnil
  | some d => exact List.filter_sublist.map Constraint.rule

theorem count_marks_onlyFor (hs : r.Separates f) {c : Constraint} (hc : c ∈ constraintsFor r f v)
    {attr : AttributeRef} (hattr : c.rule.uniqueAttr? = some attr) (vs : List Visited)
    (value : String) : (marks (r.onlyFor f) vs).count ⟨v.kind, attr, value⟩ =
      (marks r vs).count ⟨v.kind, attr, value⟩ := by
  obtain ⟨d, hd, hcd, happlies⟩ := mem_constraintsFor.mp hc
  rw [count_marks_eq, count_marks_eq]
  congr 1
  apply List.flatMap_congr
  intro w _
  rw [markers_onlyFor, List.filter_eq_self.mpr]
  intro c' hc'
  obtain ⟨d', hd', hcd', hkind, hattr'⟩ := exists_of_mem_markers hc'
  -- the marker sits in the same declaration, so it cannot belong to another family
  have hsame : r.lookup? v.kind = some d' := (congrArg r.lookup? hkind).trans hd'
  obtain rfl : d = d' := Option.some.inj (hd.symm.trans hsame)
  by_contra hforeign
  exact hs v.kind d hd c hcd c' hcd' happlies (Bool.eq_false_iff.mpr hforeign) attr hattr hattr'

theorem contains_target_onlyFor {c : Constraint} (hv : v ∈ vs) (hc : c ∈ constraintsFor r f v)
    {attr target : AttributeRef} (hrule : c.rule = .reference attr k target) (value : String) :
    (ofVisited (r.onlyFor f) vs).targets.contains ⟨k, target, value⟩ =
      (ofVisited r vs).targets.contains ⟨k, target, value⟩ := by
  have hall : (k, target) ∈ wanted r vs := mem_wanted hv (hrule ▸ rule_mem_rulesOf hc)
  have hown : (k, target) ∈ wanted (r.onlyFor f) vs := by
    rw [← constraintsFor_onlyFor] at hc
    exact mem_wanted hv (hrule ▸ rule_mem_rulesOf hc)
  rw [Bool.eq_iff_iff, targets_ofVisited, targets_ofVisited, mem_found hall, mem_found hown]

end ValueIndex

section

variable {c : Constraint} (place : Option (Package × String))

theorem Rule.defect?_onlyFor (hv : v ∈ vs) (hc : c ∈ constraintsFor r f v) :
    c.rule.defect? (.ofVisited (r.onlyFor f) vs) place v =
        c.rule.defect? (.ofVisited r vs) place v ∨
      c.rule.defect? (.ofVisited (r.onlyFor f) vs) place v = none ∧ ∃ name value,
        c.rule.defect? (.ofVisited r vs) place v = some (some name, .duplicateValue name value) := by
  cases hrule : c.rule with
  | unique attr caseSensitive =>
      rcases Option.eq_none_or_eq_some (attr.on v.element) with hs | ⟨s, hs⟩
      · simp [defect?, hs]
      · have hle := (ValueIndex.marks_onlyFor_sublist r f vs).count_le
          ⟨v.kind, attr, normalise caseSensitive s⟩
        simp only [defect?, hs, ValueIndex.counts_ofVisited, Option.bind_eq_bind, Option.bind_some]
        split
        · left
          rw [if_pos (by omega)]
        · split
          · exact .inr ⟨rfl, attr.name, s, rfl⟩
          · exact .inl rfl
  | reference attr k target =>
      simp only [defect?, ValueIndex.contains_target_onlyFor hv hc hrule, true_or]
  | relationship attr => exact .inl rfl
  | exclusive attrs => exact .inl rfl
  | conditional required condition values => exact .inl rfl

theorem Rule.defect?_of_separates (hs : r.Separates f) (hv : v ∈ vs)
    (hc : c ∈ constraintsFor r f v) :
    c.rule.defect? (.ofVisited (r.onlyFor f) vs) place v =
      c.rule.defect? (.ofVisited r vs) place v := by
  cases hrule : c.rule with
  | unique attr caseSensitive =>
      have hattr : c.rule.uniqueAttr? = some attr := hrule ▸ rfl
      simp only [defect?, ValueIndex.counts_ofVisited,
        ValueIndex.count_marks_onlyFor hs hc hattr vs]
  | reference attr k target =>
      simp only [defect?, ValueIndex.contains_target_onlyFor hv hc hrule]
  | _ => rfl

variable (r f) (root : Element)

theorem meaningFindings_onlyFor_sublist :
    (meaningFindings (r.onlyFor f) f place root).Sublist (meaningFindings r f place root) := by
  apply List.Sublist.flatMap_right
  intro v hv
  rw [constraintsFor_onlyFor, List.filterMap_eq_flatMap_toList, List.filterMap_eq_flatMap_toList]
  apply List.Sublist.flatMap_right
  intro c hc
  rcases Rule.defect?_onlyFor place hv hc with h | ⟨h, -⟩
  · rw [h]
  · rw [h]
    exact List.nil_sublist _

theorem meaningFindings_onlyFor_but_duplicates :
    (meaningFindings (r.onlyFor f) f place root).filter
        (fun x => x.defect.rule != "Sem_UniqueAttributeValue") =
      (meaningFindings r f place root).filter
        (fun x => x.defect.rule != "Sem_UniqueAttributeValue") := by
  simp only [meaningFindings, List.filter_flatMap, List.filter_filterMap, constraintsFor_onlyFor]
  apply List.flatMap_congr
  intro v hv
  apply List.filterMap_congr
  intro c hc
  rcases Rule.defect?_onlyFor place hv hc with h | ⟨h, name, value, hd⟩
  · rw [h]
  · rw [h, hd]
    rfl

variable {r f}

theorem meaningFindings_of_separates (hs : r.Separates f) :
    meaningFindings (r.onlyFor f) f place root = meaningFindings r f place root := by
  simp only [meaningFindings, constraintsFor_onlyFor]
  apply List.flatMap_congr
  intro v hv
  apply List.filterMap_congr
  intro c hc
  rw [Rule.defect?_of_separates place hs hv hc]

end

def Element.bearing (k : Kind) (attr : AttributeRef) : Element :=
  ⟨.typed k ⟨0, ""⟩ .empty, [⟨none, attr.localName, attr.namespaceId, none, ""⟩], none, []⟩

theorem AttributeRef.on_bearing (k : Kind) (attr : AttributeRef) :
    attr.on (.bearing k attr) = some "" := by
  simp [AttributeRef.on, Element.value?, Element.attribute?, Element.bearing, Attribute.answers,
    Attribute.isExtension]

theorem visited_bearing (k : Kind) (attr : AttributeRef) (node : NodeRef) :
    visited node (.bearing k attr) = [⟨.bearing k attr, k, node⟩] := rfl

-- an empty value reads the same under every rule, whether case counts or not
theorem normalise_empty (caseSensitive : Bool) : normalise caseSensitive "" = "" := by
  cases caseSensitive <;> rfl

theorem markOf?_bearing {rule : Rule} {attr : AttributeRef} (h : rule.uniqueAttr? = some attr)
    (k : Kind) (node : NodeRef) :
    ValueIndex.markOf? ⟨.bearing k attr, k, node⟩ rule = some ⟨k, attr, ""⟩ := by
  cases rule with
  | unique a caseSensitive =>
      obtain rfl : a = attr := Option.some.inj h
      simp only [ValueIndex.markOf?, AttributeRef.on_bearing, Option.map_some, normalise_empty]
  | _ => simp [Rule.uniqueAttr?] at h

theorem Rule.defect?_bearing {rule : Rule} {attr : AttributeRef} {index : ValueIndex}
    (h : rule.uniqueAttr? = some attr) (hlt : 1 < index.counts.getD ⟨k, attr, ""⟩ 0)
    (place : Option (Package × String)) (node : NodeRef) :
    rule.defect? index place ⟨.bearing k attr, k, node⟩ =
      some (some attr.name, .duplicateValue attr.name "") := by
  cases rule with
  | unique a caseSensitive =>
      obtain rfl : a = attr := Option.some.inj h
      simp only [defect?, AttributeRef.on_bearing, Option.bind_eq_bind, Option.bind_some,
        normalise_empty]
      exact if_pos hlt
  | _ => simp [uniqueAttr?] at h

theorem Rule.unique_of_duplicate {rule : Rule} {index : ValueIndex}
    {place : Option (Package × String)} {o : Option String} {name value : String}
    (h : rule.defect? index place v = some (o, .duplicateValue name value)) :
    ∃ attr caseSensitive s, rule = .unique attr caseSensitive ∧
      1 < index.counts.getD ⟨v.kind, attr, s⟩ 0 := by
  cases rule with
  | unique attr caseSensitive =>
      obtain ⟨s, -, h⟩ := Option.bind_eq_some_iff.mp h
      split at h
      · next hlt => exact ⟨attr, caseSensitive, _, rfl, hlt⟩
      · simp at h
  | relationship attr =>
      obtain ⟨s, -, h⟩ := Option.bind_eq_some_iff.mp h
      obtain ⟨scope, -, h⟩ := Option.bind_eq_some_iff.mp h
      split at h
      simp at h
  | exclusive attrs =>
      simp only [defect?] at h
      split at h
      · simp at h
      · simp at h
  | _ =>
      obtain ⟨s, -, h⟩ := Option.bind_eq_some_iff.mp h
      split at h <;> simp at h

theorem ne_duplicate_of_alone (hr : r.Unambiguous) {place : Option (Package × String)}
    {root : Element} (halone : visited (.root root) root = [v]) {x : Finding}
    (hx : x ∈ meaningFindings r f place root) (name value : String) :
    x.defect ≠ .duplicateValue name value := by
  intro hdefect
  simp only [meaningFindings, halone, List.flatMap_singleton, List.mem_filterMap] at hx
  obtain ⟨c, hc, hx⟩ := hx
  obtain ⟨⟨o, d⟩, hd, rfl⟩ := Option.map_eq_some_iff.mp hx
  obtain rfl : d = .duplicateValue name value := hdefect
  obtain ⟨attr, caseSensitive, s, hrule, hlt⟩ := Rule.unique_of_duplicate hd
  obtain ⟨e, he, hin⟩ := ValueIndex.exists_declaration (rule_mem_rulesOf hc)
  rw [ValueIndex.counts_ofVisited, ValueIndex.count_marks hr he (hrule ▸ hin)] at hlt
  have hle := List.countP_le_length (p := fun w : Visited =>
    w.kind = v.kind ∧ ValueIndex.compared attr caseSensitive w = some s) (l := [v])
  rw [List.length_singleton] at hle
  omega

theorem mem_meaningFindings_of_foreign {d : Declaration} {c c' : Constraint} {attr : AttributeRef}
    (hd : r.lookup? k = some d) (hc : c ∈ d.constraints) (hc' : c' ∈ d.constraints)
    (happlies : c.family.appliesTo f = true) (hforeign : c'.family.appliesTo f = false)
    (hattr : c.rule.uniqueAttr? = some attr) (hattr' : c'.rule.uniqueAttr? = some attr)
    (place : Option (Package × String)) :
    .ofDefect ((NodeRef.root (.bearing k attr)).withAttribute attr.name)
        (.duplicateValue attr.name "") ∈ meaningFindings r f place (.bearing k attr) := by
  let v : Visited := ⟨.bearing k attr, k, .root (.bearing k attr)⟩
  have hmarkers (b : Constraint) (hb : b ∈ d.constraints)
      (h : b.rule.uniqueAttr? = some attr) : b ∈ ValueIndex.markers r v ⟨k, attr, ""⟩ := by
    simp only [ValueIndex.markers, v, hd]
    exact List.mem_filter.mpr ⟨hb, beq_iff_eq.mpr (markOf?_bearing h k _)⟩
  have hne : c ≠ c' := by
    rintro rfl
    simp [happlies] at hforeign
  have htwice : 1 < (ValueIndex.marks r [v]).count ⟨k, attr, ""⟩ := by
    have hsub : [c, c'].Subperm (ValueIndex.markers r v ⟨k, attr, ""⟩) := by
      apply List.subperm_of_subset (by simpa using hne)
      simp [hmarkers c hc hattr, hmarkers c' hc' hattr']
    rw [ValueIndex.count_marks_eq, List.flatMap_singleton]
    exact hsub.length_le
  simp only [meaningFindings, visited_bearing, List.flatMap_singleton, List.mem_filterMap]
  refine ⟨c, mem_constraintsFor.mpr ⟨d, hd, hc, happlies⟩, ?_⟩
  rw [Rule.defect?_bearing hattr (by rwa [ValueIndex.counts_ofVisited])]
  rfl

namespace Context

theorem ledger_checkMeaning (c : Context) (root : Element) : (c.checkMeaning root).ledger =
    c.ledger.addAll (meaningFindings c.registry c.family c.place root) := by
  rw [checkMeaning_eq]
  rfl

theorem ledger_withoutForeign (c : Context) (root : Element) :
    (c.withoutForeign.checkMeaning root).ledger = c.ledger.addAll
      (meaningFindings (c.registry.onlyFor c.family) c.family c.place root) := by
  rw [checkMeaning_eq]
  rfl

theorem ledger_withoutForeign_eq_iff (c : Context) (root : Element) :
    (c.withoutForeign.checkMeaning root).ledger = (c.checkMeaning root).ledger ↔
      meaningFindings (c.registry.onlyFor c.family) c.family c.place root =
        meaningFindings c.registry c.family c.place root := by
  rw [ledger_withoutForeign, ledger_checkMeaning]
  constructor
  · intro h
    have hown := c.ledger.size_add_dropped_addAll
      (meaningFindings (c.registry.onlyFor c.family) c.family c.place root)
    have hall := c.ledger.size_add_dropped_addAll
      (meaningFindings c.registry c.family c.place root)
    rw [h] at hown
    exact (meaningFindings_onlyFor_sublist _ _ _ _).eq_of_length (by omega)
  · intro h
    rw [h]

theorem separates_of_ledger_eq {c : Context} (hr : (c.registry.onlyFor c.family).Unambiguous)
    (h : ∀ root, (c.withoutForeign.checkMeaning root).ledger = (c.checkMeaning root).ledger) :
    c.registry.Separates c.family := by
  intro k d hd b hb b' hb' happlies hforeign attr hattr hattr'
  have hx := mem_meaningFindings_of_foreign hd hb hb' happlies hforeign hattr hattr' c.place
  rw [← (c.ledger_withoutForeign_eq_iff _).mp (h _)] at hx
  exact ne_duplicate_of_alone hr (visited_bearing k attr _) hx _ _ rfl

/-- Taking the rules of other families away adds no finding and takes only duplicates away. No
ledger changes if no kind asks for unique values of an attribute both within the family of the check
and outside of it; if the family itself does not ask twice, this is the only way. -/
theorem checkMeaning_foreign (c : Context) :
    (∀ root,
      (meaningFindings (c.registry.onlyFor c.family) c.family c.place root).Sublist
        (meaningFindings c.registry c.family c.place root) ∧
      (meaningFindings (c.registry.onlyFor c.family) c.family c.place root).filter
          (fun x => x.defect.rule != "Sem_UniqueAttributeValue") =
        (meaningFindings c.registry c.family c.place root).filter
          (fun x => x.defect.rule != "Sem_UniqueAttributeValue")) ∧
    (c.registry.Separates c.family →
      ∀ root, (c.withoutForeign.checkMeaning root).ledger = (c.checkMeaning root).ledger) ∧
    ((c.registry.onlyFor c.family).Unambiguous →
      (∀ root, (c.withoutForeign.checkMeaning root).ledger = (c.checkMeaning root).ledger) →
        c.registry.Separates c.family) := by
  refine ⟨fun root => ⟨?_, ?_⟩, fun hs root => ?_, separates_of_ledger_eq⟩
  · exact meaningFindings_onlyFor_sublist _ _ _ _
  · exact meaningFindings_onlyFor_but_duplicates _ _ _ _
  · rw [ledger_withoutForeign_eq_iff]
    exact meaningFindings_of_separates _ _ hs

theorem checkMeaning_foreign_other_attribute : ∃ (c : Context) (root : Element),
    c.registry.Separates c.family ∧ (c.registry.onlyFor c.family).Unambiguous ∧
      (c.withoutForeign.checkMeaning root).ledger = (c.checkMeaning root).ledger ∧
      (c.checkMeaning root).ledger.findings.map (fun f => f.node.path) =
        ["/w:body[1]/w:p[1]", "/w:body[1]/w:p[2]"] := by
  let d : Declaration := { Declaration.bare ⟨"w:p"⟩ ⟨23, "p"⟩ .composite with
    constraints := [⟨.unique ⟨"id", none, "id"⟩ true, .word⟩,
      ⟨.unique ⟨"name", none, "name"⟩ true, .spreadsheet⟩] }
  let c : Context :=
    (Context.start ⟨.office2007, .standard, [⟨d, none⟩]⟩ 0).forFamily .word
  let node : Element := ⟨.typed ⟨"w:p"⟩ ⟨23, "p"⟩ .composite,
    [⟨none, "id", none, none, "a"⟩, ⟨none, "name", none, none, "b"⟩], none, []⟩
  let root : Element := ⟨.typed ⟨"w:body"⟩ ⟨23, "body"⟩ .composite, [], none, [node, node]⟩
  have hs : c.registry.Separates c.family := by
    intro k e he
    obtain rfl := Registry.eq_of_lookup?_alone he
    decide
  have hr : (c.registry.onlyFor c.family).Unambiguous := by
    intro k e he
    obtain rfl := Registry.eq_of_lookup?_alone he
    decide
  have hsame := (checkMeaning_foreign c).2.1 hs
  refine ⟨c, root, (checkMeaning_foreign c).2.2 hr hsame, hr, hsame root, ?_⟩
  rw [← hsame root, ledger_withoutForeign, Ledger.findings_addAll (.inl rfl),
    meaningFindings_eq hr]
  decide

theorem checkMeaning_foreign_same_attribute : ∃ (c : Context) (root : Element),
    (c.withoutForeign.checkMeaning root).ledger.findings = [] ∧
      (c.checkMeaning root).ledger.findings.map Finding.text =
        ["/w:p[1]/@w:id [Sem_UniqueAttributeValue] The attribute 'w:id' should have unique " ++
          "value. Its current value '' duplicates with others."] := by
  let attr : AttributeRef := ⟨"w:id", some 23, "id"⟩
  let d : Declaration := { Declaration.bare ⟨"w:p"⟩ ⟨23, "p"⟩ .composite with
    constraints := [⟨.unique attr true, .word⟩, ⟨.unique attr true, .spreadsheet⟩] }
  let c : Context :=
    (Context.start ⟨.office2007, .standard, [⟨d, none⟩]⟩ 0).forFamily .word
  let root : Element := .bearing ⟨"w:p"⟩ attr
  have hr : (c.registry.onlyFor c.family).Unambiguous := by
    intro k e he
    obtain rfl := Registry.eq_of_lookup?_alone he
    decide
  refine ⟨c, root, ?_, ?_⟩
  · rw [ledger_withoutForeign, Ledger.findings_addAll (.inl rfl), meaningFindings_eq hr]
    decide
  · rw [ledger_checkMeaning, Ledger.findings_addAll (.inl rfl), meaningFindings, visited_bearing,
      List.flatMap_singleton, show constraintsFor c.registry c.family _ = [⟨.unique attr true, .word⟩]
        from rfl]
    simp only [List.filterMap_cons, Rule.defect?, ValueIndex.counts_ofVisited]
    decide +kernel

end Context

end OfficeSchema
