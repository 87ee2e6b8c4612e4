import OfficeSchema.Proofs.Content.Verdict
import OfficeSchema.Proofs.Findings

/-!
The course of a content check. What is found on the children comes first, child by child. What is
missing comes after it and depends on the slots that were filled, but not on their order.
-/

namespace OfficeSchema

namespace Progress

def takeAll (g : Progress) (F : List Slot) : Progress := F.foldl take g

theorem seen_takeAll (g : Progress) (F : List Slot) :
    (g.takeAll F).seen = F.reverse ++ g.seen := by
  induction F generalizing g with
  | nil => rfl
  | cons s F ih =>
      have hstep : g.takeAll (s :: F) = (g.take s).takeAll F := rfl
      rw [hstep, ih, List.reverse_cons, List.append_assoc]
      rfl

variable {g h : Progress}

theorem count_perm (hs : g.seen.Perm h.seen) (k : Kind) : g.count k = h.count k :=
  hs.countP_eq _

theorem mem_alternatives_iff {i a : Nat} :
    a ∈ g.alternatives i ↔ ∃ s ∈ g.seen, s.choices.lookup i = some a := by
  rw [alternatives, List.mem_eraseDups, List.mem_filterMap]

theorem isEmpty_alternatives_perm (hs : g.seen.Perm h.seen) (i : Nat) :
    (g.alternatives i).isEmpty = (h.alternatives i).isEmpty := by
  rw [Bool.eq_iff_iff, List.isEmpty_iff, List.isEmpty_iff, List.eq_nil_iff_forall_not_mem,
    List.eq_nil_iff_forall_not_mem]
  simp only [mem_alternatives_iff, hs.mem_iff]

theorem isDemanded_perm (hs : g.seen.Perm h.seen) (p : Path) (presence : Presence) :
    g.isDemanded p presence = h.isDemanded p presence := by
  cases presence with
  | optional => rfl
  | required => rfl
  | within steps =>
      rw [isDemanded, isDemanded, reaches, reaches, Bool.eq_iff_iff, List.any_eq_true,
        List.any_eq_true]
      simp only [hs.mem_iff]

theorem missing_perm (hs : g.seen.Perm h.seen) (m : Model) (name : String) :
    g.missing m name = h.missing m name := by
  simp only [missing, count_perm hs, isEmpty_alternatives_perm hs, isDemanded_perm hs]

end Progress

namespace Model

variable {m : Model} {parent : NodeRef} {g : Progress} {cs : List (Element × NodeRef)}
  {children : List Element}

def childFindings (m : Model) (parent : NodeRef) :
    Progress → List (Element × NodeRef) → List Finding
  | _, [] => []
  | g, (c, r) :: cs =>
      match c.node.role m with
      | .slot s =>
          (g.slotDefects m parent.element s).map (.ofDefect r) ++
            childFindings m parent (g.take s) cs
      | .stranger name =>
          .ofDefect r (.invalidChild parent.element name (m.slots.map Slot.kind)) ::
            childFindings m parent g cs
      | .ignored => childFindings m parent g cs

theorem filledBy_cons (m : Model) (e : Element) (es : List Element) :
    m.filledBy (e :: es) = (m.slotOf? e).toList ++ m.filledBy es := by
  rw [filledBy, List.filterMap_cons]
  cases m.slotOf? e <;> rfl

theorem contentFrom_eq_append (m : Model) (parent : NodeRef) (g : Progress)
    (cs : List (Element × NodeRef)) : contentFrom m parent g cs = childFindings m parent g cs ++
      ((g.takeAll (m.filledBy (cs.map Prod.fst))).missing m parent.element).map
        (.ofDefect parent) := by
  induction cs generalizing g with
  | nil => rfl
  | cons c cs ih =>
      obtain ⟨c, r⟩ := c
      have hrole := role_spec m c
      rw [List.map_cons, filledBy_cons, contentFrom, childFindings]
      cases hr : c.node.role m with
      | slot s =>
          rw [hr] at hrole
          dsimp only
          rw [ih (g.take s), hrole.1, List.append_assoc]
          rfl
      | stranger name =>
          rw [hr] at hrole
          rw [ih, hrole.1]
          rfl
      | ignored =>
          rw [hr] at hrole
          rw [ih, hrole.1]
          rfl

theorem contentFindings_eq_append (m : Model) (parent : NodeRef) (children : List Element) :
    contentFindings m parent children =
      childFindings m parent .start (children.zip (parent.children children)) ++
        ((Progress.after (m.filledBy children)).missing m parent.element).map
          (.ofDefect parent) := by
  rw [contentFindings_eq_contentFrom, contentFrom_eq_append, NodeRef.map_fst_zip_children]
  congr 2
  apply Progress.missing_perm
  rw [Progress.seen_takeAll]
  simp [Progress.start, Progress.after]

def childRules : List String :=
  ["Sch_InvalidElementContent", "Sch_UnexpectedElementContent", "Sch_TooManyElements"]

theorem exists_of_mem_childFindings {f : Finding} (hf : f ∈ childFindings m parent g cs) :
    ∃ c ∈ cs, ∃ d : Defect, d.rule ∈ childRules ∧ f = .ofDefect c.2 d := by
  induction cs generalizing g with
  | nil => simp [childFindings] at hf
  | cons c cs ih =>
      obtain ⟨c, r⟩ := c
      have later {g : Progress} (hf : f ∈ childFindings m parent g cs) :
          ∃ b ∈ (c, r) :: cs, ∃ d : Defect, d.rule ∈ childRules ∧ f = .ofDefect b.2 d := by
        obtain ⟨b, hb, hd⟩ := ih hf
        exact ⟨b, List.mem_cons_of_mem _ hb, hd⟩
      rw [childFindings] at hf
      cases hr : c.node.role m with
      | slot s =>
          simp only [hr] at hf
          rcases List.mem_append.mp hf with hf | hf
          · obtain ⟨d, hd, rfl⟩ := List.mem_map.mp hf
            refine ⟨(c, r), List.mem_cons_self, d, ?_, rfl⟩
            rcases rule_of_mem_slotDefects hd with hrule | ⟨hrule, -⟩ <;> simp [hrule, childRules]
          · exact later hf
      | stranger name =>
          simp only [hr] at hf
          rcases List.mem_cons.mp hf with rfl | hf
          · exact ⟨(c, r), List.mem_cons_self, _, by simp [Defect.rule, childRules], rfl⟩
          · exact later hf
      | ignored =>
          simp only [hr] at hf
          exact later hf

theorem rule_mem_childRules {f : Finding} (hf : f ∈ childFindings m parent g cs) :
    f.defect.rule ∈ childRules := by
  obtain ⟨_, -, d, hd, rfl⟩ := exists_of_mem_childFindings hf
  exact hd

theorem rule_of_mem_missingFindings {F : List Slot} {f : Finding}
    (hf : f ∈ ((Progress.after F).missing m parent.element).map (.ofDefect parent)) :
    f.defect.rule = "Sch_IncompleteContent" := by
  obtain ⟨d, hd, rfl⟩ := List.mem_map.mp hf
  exact rule_of_mem_missing hd

theorem underRule_child {rule : String} (h : rule ∈ childRules) (m : Model) (parent : NodeRef)
    (children : List Element) : underRule rule (contentFindings m parent children) =
      underRule rule (childFindings m parent .start (children.zip (parent.children children))) := by
  have hmissing : underRule rule
      (((Progress.after (m.filledBy children)).missing m parent.element).map (.ofDefect parent)) =
        [] := by
    apply underRule_eq_nil
    intro f hf hrule
    rw [← hrule, rule_of_mem_missingFindings hf] at h
    exact absurd h (by decide)
  rw [contentFindings_eq_append, underRule_append, hmissing, List.append_nil]

theorem underRule_incomplete (m : Model) (parent : NodeRef) (children : List Element) :
    underRule "Sch_IncompleteContent" (contentFindings m parent children) =
      ((Progress.after (m.filledBy children)).missing m parent.element).map
        (.ofDefect parent) := by
  rw [contentFindings_eq_append, underRule_append, underRule_eq_nil, List.nil_append]
  · exact underRule_eq_self fun f hf => rule_of_mem_missingFindings hf
  · intro f hf hrule
    have := rule_mem_childRules hf
    rw [hrule] at this
    exact absurd this (by decide)

end Model

end OfficeSchema
