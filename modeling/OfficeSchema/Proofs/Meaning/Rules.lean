import Mathlib.Data.List.Count
import Mathlib.Data.List.Nodup
import OfficeSchema.Proofs.Meaning.Sites
import OfficeSchema.Proofs.Validation.Ledger

namespace OfficeSchema

/-- Whether a rule is violated at a site, said of all sites of a document at once. -/
def Rule.IsViolated (all : List Site) (place : Option (Package × String)) (s : Site) : Rule → Prop
  | .unique attr caseSensitive =>
      ∃ value ∈ attr.on s.2.element, ∃ t ∈ all, t.1 ≠ s.1 ∧ t.2.kind = s.2.kind ∧
        ∃ other ∈ attr.on t.2.element, normalise caseSensitive other = normalise caseSensitive value
  | .reference attr targetKind target =>
      ∃ value ∈ attr.on s.2.element, ∀ t ∈ all, t.2.kind = targetKind →
        target.on t.2.element ≠ some value
  | .relationship attr =>
      ∃ value ∈ attr.on s.2.element, ∃ scope ∈ place, ∀ part ∈ scope.1.part? scope.2,
        ∀ l ∈ part.relationships, l.id ≠ value
  | .exclusive attrs => 2 ≤ attrs.countP (fun a => (a.on s.2.element).isSome)
  | .conditional required condition values =>
      ∃ value ∈ condition.on s.2.element, value ∈ values ∧ required.on s.2.element = none

instance (all : List Site) (place : Option (Package × String)) (s : Site) :
    DecidablePred (Rule.IsViolated all place s)
  | .unique _ _ => inferInstanceAs (Decidable (∃ _ ∈ _, _))
  | .reference _ _ _ => inferInstanceAs (Decidable (∃ _ ∈ _, _))
  | .relationship _ => inferInstanceAs (Decidable (∃ _ ∈ _, _))
  | .exclusive _ => inferInstanceAs (Decidable (_ ≤ _))
  | .conditional _ _ _ => inferInstanceAs (Decidable (∃ _ ∈ _, _))

def Rule.blame (e : Element) : Rule → Option String × Defect
  | .unique attr _ => (some attr.name, .duplicateValue attr.name ((attr.on e).getD ""))
  | .reference attr targetKind target =>
      (some attr.name, .missingTarget attr.name ((attr.on e).getD "") targetKind target.name)
  | .relationship attr => (some attr.name, .missingRelationship attr.name ((attr.on e).getD ""))
  | .exclusive attrs =>
      (none, .exclusiveTogether ((attrs.filter (fun a => (a.on e).isSome)).map AttributeRef.name)
        (attrs.map AttributeRef.name))
  | .conditional required condition _ =>
      (none, .missingCompanion required.name condition.name ((condition.on e).getD ""))

def Rule.report (all : List Site) (place : Option (Package × String)) (s : Site) (rule : Rule) :
    List Finding :=
  if rule.IsViolated all place s then
    [.ofDefect (s.2.place (rule.blame s.2.element).1) (rule.blame s.2.element).2]
  else []

def Rule.uniqueAttr? : Rule → Option AttributeRef
  | .unique attr _ => some attr
  | _ => none

/-- No kind asks twice that values of one attribute are unique. -/
def Registry.Unambiguous (r : Registry) : Prop :=
  ∀ k d, r.lookup? k = some d → (d.constraints.filterMap (fun c => c.rule.uniqueAttr?)).Nodup

namespace ValueIndex

variable {r : Registry} {v : Visited} {vs : List Visited} {k : Kind} {attr : AttributeRef}
  {value : String}

theorem getD_foldl_count (ms : List Mark) (index : Std.HashMap Mark Nat) (m : Mark) :
    (ms.foldl count index).getD m 0 = index.getD m 0 + ms.count m := by
  induction ms generalizing index with
  | nil => rfl
  | cons a ms ih =>
      rw [List.foldl_cons, ih, count, Std.HashMap.getD_insert, List.count_cons]
      by_cases h : a = m
      · simp [h]
        omega
      · simp [h]

theorem contains_foldl_insert (ms : List Mark) (index : Std.HashMap Mark Unit) (m : Mark) :
    (ms.foldl (fun i a => i.insert a ()) index).contains m = true ↔
      index.contains m = true ∨ m ∈ ms := by
  induction ms generalizing index with
  | nil => simp
  | cons a ms ih =>
      rw [List.foldl_cons, ih, Std.HashMap.contains_insert, Bool.or_eq_true, beq_iff_eq,
        List.mem_cons]
      constructor
      · rintro ((rfl | h) | h)
        · exact .inr (.inl rfl)
        · exact .inl h
        · exact .inr (.inr h)
      · rintro (h | rfl | h)
        · exact .inl (.inr h)
        · exact .inl (.inl rfl)
        · exact .inr h

theorem counts_ofVisited (r : Registry) (vs : List Visited) (m : Mark) :
    (ofVisited r vs).counts.getD m 0 = (marks r vs).count m := by
  simp [ofVisited, getD_foldl_count]

theorem targets_ofVisited (r : Registry) (vs : List Visited) (m : Mark) :
    (ofVisited r vs).targets.contains m = true ↔ m ∈ found (wanted r vs) vs := by
  rw [ofVisited, contains_foldl_insert]
  simp

def compared (attr : AttributeRef) (caseSensitive : Bool) (v : Visited) : Option String :=
  (attr.on v.element).map (normalise caseSensitive)

theorem asked_of_markOf? {rule : Rule} {m : Mark} (h : markOf? v rule = some m) :
    m.kind = v.kind ∧ rule.uniqueAttr? = some m.attr := by
  cases rule with
  | unique a caseSensitive =>
      obtain ⟨s, -, rfl⟩ := Option.map_eq_some_iff.mp h
      exact ⟨rfl, rfl⟩
  | _ => simp [markOf?] at h

theorem count_marks_of_not_asked {rules : List Rule} (h : attr ∉ rules.filterMap Rule.uniqueAttr?)
    (v : Visited) (k : Kind) (value : String) :
    (rules.filterMap (markOf? v)).count ⟨k, attr, value⟩ = 0 := by
  rw [List.count_eq_zero]
  intro hm
  obtain ⟨rule, hrule, hmark⟩ := List.mem_filterMap.mp hm
  exact h (List.mem_filterMap.mpr ⟨rule, hrule, (asked_of_markOf? hmark).2⟩)

theorem count_marks_of_asked {rules : List Rule} {caseSensitive : Bool}
    (hn : (rules.filterMap Rule.uniqueAttr?).Nodup) (h : .unique attr caseSensitive ∈ rules)
    (v : Visited) (value : String) :
    (rules.filterMap (markOf? v)).count ⟨v.kind, attr, value⟩ =
      if compared attr caseSensitive v = some value then 1 else 0 := by
  induction rules with
  | nil => simp at h
  | cons rule rules ih =>
      rcases List.mem_cons.mp h with rfl | hin
      · have hnot : attr ∉ rules.filterMap Rule.uniqueAttr? := by
          simp only [List.filterMap_cons, Rule.uniqueAttr?, List.nodup_cons] at hn
          exact hn.1
        have hrest := count_marks_of_not_asked hnot v v.kind value
        rcases Option.eq_none_or_eq_some (attr.on v.element) with hs | ⟨s, hs⟩
        · have hmark : markOf? v (.unique attr caseSensitive) = none := by simp [markOf?, hs]
          rw [List.filterMap_cons_none hmark, hrest]
          simp [compared, hs]
        · have hmark : markOf? v (.unique attr caseSensitive) =
              some ⟨v.kind, attr, normalise caseSensitive s⟩ := by simp [markOf?, hs]
          rw [List.filterMap_cons_some hmark, List.count_cons, hrest]
          simp [compared, hs]
      · have hasked : attr ∈ rules.filterMap Rule.uniqueAttr? :=
          List.mem_filterMap.mpr ⟨_, hin, rfl⟩
        cases rule with
        | unique a c =>
            simp only [List.filterMap_cons, Rule.uniqueAttr?, List.nodup_cons] at hn
            have hne : a ≠ attr := fun he => hn.1 (he ▸ hasked)
            rw [← ih hn.2 hin]
            rcases Option.eq_none_or_eq_some (a.on v.element) with hs | ⟨s, hs⟩
            · rw [List.filterMap_cons_none (by simp [markOf?, hs])]
            · have hmark : markOf? v (.unique a c) = some ⟨v.kind, a, normalise c s⟩ := by
                simp [markOf?, hs]
              rw [List.filterMap_cons_some hmark, List.count_cons]
              simp [hne]
        | _ => exact ih hn hin

theorem count_marks {d : Declaration} {caseSensitive : Bool} (hr : r.Unambiguous)
    (hd : r.lookup? k = some d) (h : .unique attr caseSensitive ∈ d.constraints.map Constraint.rule)
    (vs : List Visited) (value : String) :
    (marks r vs).count ⟨k, attr, value⟩ = vs.countP (fun v =>
      v.kind = k ∧ compared attr caseSensitive v = some value) := by
  have hn : ((d.constraints.map Constraint.rule).filterMap Rule.uniqueAttr?).Nodup := by
    rw [List.filterMap_map]
    exact hr k d hd
  induction vs with
  | nil => rfl
  | cons v vs ih =>
      rw [marks, List.flatMap_cons, List.count_append, List.countP_cons, ← ih, marks, Nat.add_comm]
      congr 1
      by_cases hk : v.kind = k
      · subst hk
        rw [rulesOf, hd]
        simpa using count_marks_of_asked hn h v value
      · have hzero : ((rulesOf r v).filterMap (markOf? v)).count ⟨k, attr, value⟩ = 0 := by
          rw [List.count_eq_zero]
          intro hm
          obtain ⟨rule, -, hmark⟩ := List.mem_filterMap.mp hm
          exact hk (asked_of_markOf? hmark).1.symm
        simp [hzero, hk]

theorem mem_found {wanted : List (Kind × AttributeRef)} (h : (k, attr) ∈ wanted)
    (vs : List Visited) (value : String) : ⟨k, attr, value⟩ ∈ found wanted vs ↔
      ∃ v ∈ vs, v.kind = k ∧ attr.on v.element = some value := by
  simp only [found, List.mem_flatMap, List.mem_filterMap, List.mem_filter, beq_iff_eq,
    Option.map_eq_some_iff]
  constructor
  · rintro ⟨v, hv, w, ⟨-, -⟩, s, hs, heq⟩
    obtain ⟨hk, ha, rfl⟩ := Mark.mk.inj heq
    exact ⟨v, hv, hk, ha ▸ hs⟩
  · rintro ⟨v, hv, rfl, hs⟩
    exact ⟨v, hv, (v.kind, attr), ⟨h, rfl⟩, value, hs, rfl⟩

theorem mem_wanted {a : AttributeRef} (hv : v ∈ vs) (h : .reference a k attr ∈ rulesOf r v) :
    (k, attr) ∈ wanted r vs := by
  rw [wanted, List.mem_eraseDups]
  exact List.mem_flatMap.mpr ⟨v, hv, List.mem_filterMap.mpr ⟨_, h, rfl⟩⟩

end ValueIndex

theorem one_lt_countP_iff {α : Type} {l : List α} (hn : l.Nodup) {P : α → Bool} {a : α}
    (ha : a ∈ l) (hP : P a = true) : 1 < l.countP P ↔ ∃ b ∈ l, b ≠ a ∧ P b = true := by
  classical
  have hnodup : (l.filter P).Nodup := hn.filter P
  have hmem : a ∈ l.filter P := List.mem_filter.mpr ⟨ha, hP⟩
  have hlen : l.countP P = ((l.filter P).erase a).length + 1 := by
    rw [List.countP_eq_length_filter, List.length_erase_of_mem hmem]
    have := List.length_pos_of_mem hmem
    omega
  rw [hlen]
  constructor
  · intro h
    have hpos : 0 < ((l.filter P).erase a).length := by omega
    obtain ⟨b, hb⟩ := List.exists_mem_of_length_pos hpos
    obtain ⟨hne, hb⟩ := hnodup.mem_erase_iff.mp hb
    exact ⟨b, (List.mem_filter.mp hb).1, hne, (List.mem_filter.mp hb).2⟩
  · rintro ⟨b, hb, hne, hPb⟩
    have hbe : b ∈ (l.filter P).erase a :=
      hnodup.mem_erase_iff.mpr ⟨hne, List.mem_filter.mpr ⟨hb, hPb⟩⟩
    have := List.length_pos_of_mem hbe
    omega

theorem ValueIndex.exists_declaration {r : Registry} {v : Visited} {rule : Rule}
    (h : rule ∈ rulesOf r v) :
    ∃ d, r.lookup? v.kind = some d ∧ rule ∈ d.constraints.map Constraint.rule := by
  rw [rulesOf] at h
  split at h
  · next d hd => exact ⟨d, hd, h⟩
  · simp at h

namespace Rule

variable {r : Registry} {all : List Site} {place : Option (Package × String)} {s : Site}

theorem one_lt_count_iff (hr : r.Unambiguous) (hn : (all.map Prod.fst).Nodup) (hs : s ∈ all)
    {attr : AttributeRef} {caseSensitive : Bool}
    (hrule : .unique attr caseSensitive ∈ ValueIndex.rulesOf r s.2) {value : String}
    (hvalue : attr.on s.2.element = some value) :
    1 < (ValueIndex.ofVisited r (all.map Prod.snd)).counts.getD
        ⟨s.2.kind, attr, normalise caseSensitive value⟩ 0 ↔
      ∃ t ∈ all, t.1 ≠ s.1 ∧ t.2.kind = s.2.kind ∧
        ∃ other ∈ attr.on t.2.element,
          normalise caseSensitive other = normalise caseSensitive value := by
  obtain ⟨d, hd, hin⟩ := ValueIndex.exists_declaration hrule
  have hself : ValueIndex.compared attr caseSensitive s.2 =
      some (normalise caseSensitive value) := by
    simp [ValueIndex.compared, hvalue]
  rw [ValueIndex.counts_ofVisited, ValueIndex.count_marks hr hd hin, List.countP_map,
    one_lt_countP_iff (List.Nodup.of_map Prod.fst hn) hs (by simp [hself])]
  constructor
  · rintro ⟨t, ht, hne, hP⟩
    simp only [Function.comp_apply, decide_eq_true_eq] at hP
    obtain ⟨hk, hcompared⟩ := hP
    obtain ⟨other, hother, heq⟩ := Option.map_eq_some_iff.mp hcompared
    exact ⟨t, ht, fun hp => hne (List.inj_on_of_nodup_map hn ht hs hp), hk, other, hother, heq⟩
  · rintro ⟨t, ht, hne, hk, other, hother, heq⟩
    refine ⟨t, ht, fun he => hne (congrArg Prod.fst he), ?_⟩
    have hcompared : ValueIndex.compared attr caseSensitive t.2 =
        some (normalise caseSensitive value) := by
      rw [ValueIndex.compared, Option.mem_def.mp hother, Option.map_some, heq]
    simp [hk, hcompared]

theorem contains_target_iff {a target : AttributeRef} {k : Kind} {value : String} (hs : s ∈ all)
    (hrule : .reference a k target ∈ ValueIndex.rulesOf r s.2) :
    (ValueIndex.ofVisited r (all.map Prod.snd)).targets.contains ⟨k, target, value⟩ = true ↔
      ∃ t ∈ all, t.2.kind = k ∧ target.on t.2.element = some value := by
  have hwanted : (k, target) ∈ ValueIndex.wanted r (all.map Prod.snd) :=
    ValueIndex.mem_wanted (List.mem_map_of_mem hs) hrule
  rw [ValueIndex.targets_ofVisited, ValueIndex.mem_found hwanted]
  simp only [List.mem_map]
  constructor
  · rintro ⟨-, ⟨t, ht, rfl⟩, hk, hv⟩
    exact ⟨t, ht, hk, hv⟩
  · rintro ⟨t, ht, hk, hv⟩
    exact ⟨t.2, ⟨t, ht, rfl⟩, hk, hv⟩

theorem resolve?_isSome_iff (k : Package) (uri id : String) :
    (k.resolve? uri id).isSome = true ↔
      ∃ part ∈ k.part? uri, ∃ l ∈ part.relationships, l.id = id := by
  rw [Package.resolve?]
  cases k.part? uri with
  | none => simp
  | some part => simp [List.find?_isSome]

theorem exists_value_iff {o : Option String} {value : String} (h : o = some value)
    (P : String → Prop) : (∃ value ∈ o, P value) ↔ P value := by
  simp [h]

theorem defect?_eq (hr : r.Unambiguous) (hn : (all.map Prod.fst).Nodup) (hs : s ∈ all) {rule : Rule}
    (hrule : rule ∈ ValueIndex.rulesOf r s.2) :
    rule.defect? (ValueIndex.ofVisited r (all.map Prod.snd)) place s.2 =
      if rule.IsViolated all place s then some (rule.blame s.2.element) else none := by
  cases rule with
  | unique attr caseSensitive =>
      rcases Option.eq_none_or_eq_some (attr.on s.2.element) with hv | ⟨value, hv⟩
      · simp [defect?, IsViolated, hv]
      · have hviolated : IsViolated all place s (.unique attr caseSensitive) ↔ _ :=
          (exists_value_iff hv _).trans (one_lt_count_iff hr hn hs hrule hv).symm
        simp only [hviolated]
        simp [defect?, blame, hv]
  | reference attr k target =>
      rcases Option.eq_none_or_eq_some (attr.on s.2.element) with hv | ⟨value, hv⟩
      · simp [defect?, IsViolated, hv]
      · have hviolated : IsViolated all place s (.reference attr k target) ↔
            ¬(ValueIndex.ofVisited r (all.map Prod.snd)).targets.contains ⟨k, target, value⟩ := by
          rw [contains_target_iff hs hrule]
          refine (exists_value_iff hv _).trans ?_
          simp
        simp only [hviolated]
        simp [defect?, blame, hv]
  | relationship attr =>
      rcases Option.eq_none_or_eq_some (attr.on s.2.element) with hv | ⟨value, hv⟩
      · simp [defect?, IsViolated, hv]
      · cases place with
        | none => simp [defect?, IsViolated, hv]
        | some scope =>
            have hviolated : IsViolated all (some scope) s (.relationship attr) ↔
                ¬(scope.1.resolve? scope.2 value).isSome := by
              rw [resolve?_isSome_iff]
              refine (exists_value_iff hv _).trans ?_
              simp
            simp only [hviolated]
            cases hl : scope.1.resolve? scope.2 value with
            | none => simp [defect?, blame, hv, hl]
            | some l => simp [defect?, hv, hl]
  | exclusive attrs =>
      have hviolated : IsViolated all place s (.exclusive attrs) ↔
          1 < (attrs.filter (fun a => (a.on s.2.element).isSome)).length := by
        rw [← List.countP_eq_length_filter]
        rfl
      simp only [hviolated]
      rfl
  | conditional required condition values =>
      rcases Option.eq_none_or_eq_some (condition.on s.2.element) with hv | ⟨value, hv⟩
      · simp [defect?, IsViolated, hv]
      · have hviolated : IsViolated all place s (.conditional required condition values) ↔
            value ∈ values ∧ required.on s.2.element = none := exists_value_iff hv _
        simp only [hviolated]
        simp [defect?, blame, hv]

end Rule

def ruleFindings (r : Registry) (f : Family) (place : Option (Package × String)) (root : Element) :
    List Finding :=
  (sites (.root root) root).flatMap (fun s =>
    (constraintsFor r f s.2).flatMap (fun c => c.rule.report (sites (.root root) root) place s))

theorem rule_mem_rulesOf {r : Registry} {f : Family} {v : Visited} {c : Constraint}
    (h : c ∈ constraintsFor r f v) : c.rule ∈ ValueIndex.rulesOf r v := by
  rw [constraintsFor] at h
  rw [ValueIndex.rulesOf]
  split at h
  · exact List.mem_map_of_mem (List.mem_filter.mp h).1
  · simp at h

theorem meaningFindings_eq {r : Registry} (hr : r.Unambiguous) (f : Family)
    (place : Option (Package × String)) (root : Element) :
    meaningFindings r f place root = ruleFindings r f place root := by
  have hn := sites_nodup (.root root) root
  simp only [meaningFindings, ruleFindings, visited_eq]
  rw [List.flatMap_map]
  apply List.flatMap_congr
  intro s hs
  rw [List.filterMap_eq_flatMap_toList]
  apply List.flatMap_congr
  intro c hc
  rw [Rule.defect?_eq hr hn hs (rule_mem_rulesOf hc), Rule.report]
  split <;> rfl

/-- Without a bound, the check reports for every typed node within reach, in document order, the
rules that are violated there, in the order of their declaration. -/
theorem checkMeaning_findings (c : Context) (root : Element) (hb : c.ledger.bound = 0)
    (hr : c.registry.Unambiguous) :
    (sites (.root root) root).Pairwise (fun s t => s.1 < t.1) ∧
    (∀ s : Site, s ∈ sites (.root root) root ↔ root.reached? s.1 = some s.2.element ∧
      s.2.element.kind? = some s.2.kind ∧ s.2.node = (NodeRef.root root).along s.1 root) ∧
    (c.checkMeaning root).ledger.findings = c.ledger.findings ++
      (ruleFindings c.registry c.family c.place root).map (fun f => f.inPart c.ledger.part) := by
  refine ⟨sites_sorted _ _, mem_sites _ _, ?_⟩
  have hledger : (c.checkMeaning root).ledger =
      c.ledger.addAll (meaningFindings c.registry c.family c.place root) := by
    rw [Context.checkMeaning_eq]
    rfl
  rw [hledger, meaningFindings_eq hr, Ledger.findings_addAll (.inl hb), hb, firstOf_zero]

theorem checkMeaning_findings_twins : ∃ (c : Context) (root : Element),
    c.registry.Unambiguous ∧
      (c.checkMeaning root).ledger.findings.map (fun f => f.node.path) =
        ["/w:body[1]/w:p[1]", "/w:body[1]/w:p[3]"] := by
  let d : Declaration := { Declaration.bare ⟨"w:p"⟩ ⟨23, "p"⟩ .composite with
    constraints := [⟨.unique ⟨"id", none, "id"⟩ true, .all⟩] }
  let c : Context := .start ⟨.office2007, .standard, [⟨d, none⟩]⟩ 0
  let node (value : String) : Element :=
    ⟨.typed ⟨"w:p"⟩ ⟨23, "p"⟩ .composite, [⟨none, "id", none, none, value⟩], none, []⟩
  let hidden : Element := ⟨.unknown "x" none, [], none, [node "b"]⟩
  let root : Element :=
    ⟨.typed ⟨"w:body"⟩ ⟨23, "body"⟩ .composite, [], none, [node "a", node "b", hidden, node "a"]⟩
  have hr : c.registry.Unambiguous := by
    intro k e he
    obtain ⟨entry, hentry, rfl⟩ := Option.map_eq_some_iff.mp he
    obtain rfl : entry = ⟨d, none⟩ := List.mem_singleton.mp (List.mem_of_find?_eq_some hentry)
    decide
  refine ⟨c, root, hr, ?_⟩
  rw [(checkMeaning_findings c root rfl hr).2.2]
  decide

end OfficeSchema
