import OfficeSchema.Check.Value
import OfficeSchema.Proofs.Lists

namespace OfficeSchema

def valueRules : List String :=
  ["Sch_AttributeValueDataTypeDetailed", "Sch_ElementValueDataTypeDetailed",
    "Sch_StringLengthConstraintFailed", "Sch_PatternConstraintFailed",
    "Sch_MinInclusiveConstraintFailed", "Sch_MaxInclusiveConstraintFailed",
    "Sch_EnumerationConstraintFailed"]

theorem ValueFrame.rule_mem_valueRules {frame : ValueFrame} {f : Finding}
    (h : f ∈ frame.findings) : f.defect.rule ∈ valueRules := by
  obtain ⟨d, hd, rfl⟩ := List.mem_map.mp h
  unfold defects at hd
  split at hd
  · obtain ⟨facet, -, rfl⟩ := List.mem_map.mp hd
    cases facet <;> simp [Finding.ofDefect, Defect.rule, Defect.facetRule, valueRules]
  · obtain rfl := List.mem_singleton.mp hd
    simp only [Finding.ofDefect, Defect.rule]
    split <;> simp [valueRules]

def underRule (rule : String) (fs : List Finding) : List Finding :=
  fs.filter (fun f => f.defect.rule == rule)

variable {rule : String} {fs gs : List Finding}

theorem underRule_append (rule : String) (fs gs : List Finding) :
    underRule rule (fs ++ gs) = underRule rule fs ++ underRule rule gs :=
  List.filter_append _ _

theorem underRule_flatMap {α : Type} (rule : String) (as : List α) (f : α → List Finding) :
    underRule rule (as.flatMap f) = as.flatMap (fun a => underRule rule (f a)) := by
  simp [underRule, List.filter_flatMap]

theorem underRule_eq_self (h : ∀ f ∈ fs, f.defect.rule = rule) : underRule rule fs = fs := by
  rw [underRule, List.filter_eq_self]
  intro f hf
  simpa using h f hf

theorem underRule_eq_nil (h : ∀ f ∈ fs, f.defect.rule ≠ rule) : underRule rule fs = [] := by
  rw [underRule, List.filter_eq_nil_iff]
  intro f hf
  simpa using h f hf

theorem length_eq_sum_underRule {rules : List String} (hrules : rules.Nodup)
    (h : ∀ f ∈ fs, f.defect.rule ∈ rules) :
    fs.length = (rules.map (fun rule => (underRule rule fs).length)).sum := by
  induction fs with
  | nil => exact (sum_map_eq_zero fun _ _ => rfl).symm
  | cons f fs ih =>
      obtain ⟨hf, hfs⟩ := List.forall_mem_cons.mp h
      have hstep : (rules.map (fun rule => (underRule rule (f :: fs)).length)).sum =
          (rules.map (fun rule => (underRule rule fs).length)).sum +
            rules.countP (· == f.defect.rule) := by
        apply sum_map_add_countP
        intro rule _
        simp only [underRule, List.filter_cons, beq_iff_eq, eq_comm (a := rule)]
        split <;> rfl
      rw [hstep, ← ih hfs, ← List.count_eq_countP, List.count_eq_one_of_mem hrules hf,
        List.length_cons]

end OfficeSchema
