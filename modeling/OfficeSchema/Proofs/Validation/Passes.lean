import Mathlib.Data.List.Basic
import OfficeSchema.Check.Meaning

/-!
What the checks do to their context. Each step of a check adds findings to the ledger that its
document and its registry determine; the values that it puts under check are gone when it ends. So
a check is the report of one list, and the ledger keeps of that list what still fits.
-/

namespace OfficeSchema

namespace ValueCheck

theorem flatMap_defects (f : ValueFrame) : all.flatMap (defects f) = f.defects := by
  have hinvalid : ∀ variety, f.value.isValid = true → invalid f variety = [] := by
    intro variety hvalid
    simp [invalid, hvalid]
  rw [all, List.flatMap_append, List.flatMap_map]
  cases hvalid : f.value.isValid with
  | true =>
      simp only [List.flatMap_cons, List.flatMap_nil, defects, hinvalid _ hvalid, hvalid, if_true,
        List.nil_append, ValueFrame.defects, ValueFrame.violations, List.map_flatMap]
  | false =>
      cases hvariety : f.type.variety <;>
        simp [defects, invalid, hvalid, hvariety, ValueFrame.defects]

end ValueCheck

def Registry.under (r : Registry) (v : Version) : Registry := { r with version := v }

theorem Registry.lookup?_under (r : Registry) (v : Version) (k : Kind) :
    (r.under v).lookup? k = r.lookup? k := rfl

theorem Registry.content?_under (r : Registry) (v : Version) (k : Kind) :
    (r.under v).content? k = r.content? k := rfl

theorem Node.isEntered_under (r : Registry) (v : Version) (n : Node) :
    n.isEntered (r.under v) = n.isEntered r := by
  cases n with
  | typed k _ capability => cases capability <;> rfl
  | _ => rfl

namespace Context

variable {α : Type} {c : Context}

theorem reportAll_append (c : Context) (fs gs : List Finding) :
    c.reportAll (fs ++ gs) = (c.reportAll fs).reportAll gs := by
  simp only [reportAll, Ledger.addAll_append]

theorem report_eq (c : Context) (f : Finding) : c.report f = c.reportAll [f] := rfl

/-- Steps that report what their items determine, if a property of the context that reports keep
holds, report all of it. -/
theorem foldl_eq_reportAll {step : Context → α → Context} {findings : α → List Finding}
    {P : Context → Prop} (hP : ∀ c fs, P c → P (c.reportAll fs))
    (hstep : ∀ c x, P c → step c x = c.reportAll (findings x)) (hc : P c) (xs : List α) :
    xs.foldl step c = c.reportAll (xs.flatMap findings) := by
  induction xs generalizing c with
  | nil => rfl
  | cons x xs ih =>
      rw [List.foldl_cons, hstep c x hc, ih (hP c _ hc), List.flatMap_cons, reportAll_append]

theorem checkValue_of_current? {f : ValueFrame} (h : c.current? = some f) :
    c.checkValue = c.reportAll f.findings := by
  have hstep : ∀ (c : Context) (k : ValueCheck), c.current? = some f →
      c.makeCheck k = c.reportAll ((k.defects f).map (.ofDefect f.node)) := by
    intro c k hc
    rw [makeCheck, hc]
  rw [checkValue, foldl_eq_reportAll (P := fun c => c.current? = some f) (fun _ _ h => h) hstep h,
    ← List.map_flatMap, ValueCheck.flatMap_defects, ValueFrame.findings]

theorem checkFramed_eq (c : Context) (f : ValueFrame) :
    c.checkFramed f = c.reportAll f.findings := by
  rw [checkFramed, checkValue_of_current? (f := f) rfl]
  rfl

variable {r : Registry} {v : Version} {d : Declaration} {node : NodeRef} {e : Element}

theorem checkTally_eq (m : Model) (parent : NodeRef) (t : Tally)
    (children : List (Element × NodeRef)) (c : Context) :
    c.checkTally m parent t children = c.reportAll (tallyFindings m parent t children) := by
  induction children generalizing t c with
  | nil => rfl
  | cons child children ih =>
      obtain ⟨e, r⟩ := child
      rw [checkTally, tallyFindings]
      cases e.node.role m with
      | slot s => simp only [ih, reportAll_append]
      | stranger name => simp only [ih, report_eq, ← reportAll_append, List.singleton_append]
      | ignored => exact ih t c

theorem checkAttribute_eq (c : Context) (a : Attribute) :
    c.checkAttribute v d node a = c.reportAll (attributeFindings v d node a) := by
  rw [checkAttribute, attributeFindings]
  split
  · rfl
  · cases declarationOf? v d a with
    | some decl => exact checkFramed_eq c _
    | none => rfl

theorem checkAttributes_eq (c : Context) :
    c.checkAttributes d node e = c.reportAll (attributesFindings c.registry.version d node e) := by
  rw [checkAttributes, attributesFindings, reportAll_append]
  exact foldl_eq_reportAll (P := fun _ => True) (fun _ _ h => h)
    (fun c a _ => checkAttribute_eq c a) trivial e.attributes

theorem checkLeafChildren_eq (c : Context) :
    c.checkLeafChildren node e = c.reportAll (leafChildren node e) := by
  rw [checkLeafChildren, leafChildren]
  split <;> rfl

theorem checkNoText_eq (defect : String → Defect) (c : Context) :
    c.checkNoText node e defect =
      c.reportAll (if e.hasText then [.ofDefect node (defect node.element)] else []) := by
  rw [checkNoText]
  split <;> rfl

theorem checkElement_eq (capability : Capability) (c : Context) :
    c.checkElement r d capability node e =
      c.reportAll (elementFindings (r.under c.registry.version) d capability node e) := by
  unfold checkElement elementFindings
  rw [reportAll_append, checkAttributes_eq]
  cases capability with
  | composite =>
      simp only [checkNoText_eq, Registry.content?_under, reportAll_append]
      cases r.content? d.kind with
      | some content => exact checkTally_eq ..
      | none => rfl
  | text =>
      simp only [checkLeafChildren_eq, reportAll_append]
      exact checkFramed_eq ..
  | empty =>
      simp only [checkLeafChildren_eq, checkNoText_eq, reportAll_append]
      rfl

theorem checkNode_eq (c : Context) :
    c.checkNode r node e = c.reportAll (nodeFindings (r.under c.registry.version) node e) := by
  unfold checkNode nodeFindings
  split
  · next k _ capability _ =>
      rw [Registry.lookup?_under]
      cases r.lookup? k with
      | some d => exact checkElement_eq ..
      | none => rfl
  · rfl

mutual

theorem checkTree_eq : ∀ (node : NodeRef) (e : Element) (c : Context),
    c.checkTree r node e = c.reportAll (treeFindings (r.under c.registry.version) node e)
  | node, ⟨n, attributes, text, children⟩, c => by
      rw [checkTree, treeFindings, Node.isEntered_under, reportAll_append, checkNode_eq]
      cases n.isEntered r with
      | true => exact checkForest_eq node [] children _
      | false => rfl

theorem checkForest_eq : ∀ (node : NodeRef) (before : List String) (es : List Element)
    (c : Context), c.checkForest r node before es =
      c.reportAll (forestFindings (r.under c.registry.version) node before es)
  | _, _, [], _ => rfl
  | node, before, e :: es, c => by
      rw [checkForest, forestFindings, checkTree_eq, checkForest_eq, reportAll_append]
      rfl

end

theorem checkStructureBy_eq (r : Registry) (c : Context) (root : Element) :
    c.checkStructureBy r root = c.reportAll (structureFindings (r.under c.registry.version) root) :=
  checkTree_eq ..

theorem checkStructure_eq (c : Context) (root : Element) :
    c.checkStructure root = c.reportAll (structureFindings c.registry root) :=
  checkStructureBy_eq c.registry c root

theorem checkRule_eq {place : Option (Package × String)} {index : ValueIndex} {v : Visited}
    (h : c.place = place) (constraint : Constraint) :
    c.checkRule index v constraint = c.reportAll
      ((constraint.rule.defect? index place v).map
        fun d => .ofDefect (v.place d.1) d.2).toList := by
  rw [checkRule, h]
  cases constraint.rule.defect? index place v <;> rfl

theorem checkMeaningBy_eq (r : Registry) (c : Context) (root : Element) :
    c.checkMeaningBy r root = c.reportAll (meaningFindings r c.family c.place root) := by
  have hreport : ∀ (b : Context) fs, b.place = c.place → (b.reportAll fs).place = c.place :=
    fun _ _ h => h
  refine foldl_eq_reportAll hreport (fun b v hb => ?_) rfl _
  rw [foldl_eq_reportAll hreport (fun b constraint hb => checkRule_eq hb constraint) hb,
    List.filterMap_eq_flatMap_toList]

theorem checkMeaning_eq (c : Context) (root : Element) :
    c.checkMeaning root = c.reportAll (meaningFindings c.registry c.family c.place root) :=
  checkMeaningBy_eq c.registry c root

end Context

end OfficeSchema
