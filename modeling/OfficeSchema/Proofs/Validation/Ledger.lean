import OfficeSchema.Proofs.Validation.Passes

namespace OfficeSchema

def firstOf {α : Type} (bound : Nat) (l : List α) : List α :=
  if bound = 0 then l else l.take bound

theorem firstOf_zero {α : Type} (l : List α) : firstOf 0 l = l := if_pos rfl

theorem firstOf_eq_nil_iff {α : Type} {bound : Nat} {l : List α} :
    firstOf bound l = [] ↔ l = [] := by
  unfold firstOf
  split
  · rfl
  · next h => simp [h]

namespace Ledger

variable {l : Ledger} {f : Finding} {fs : List Finding}

theorem add_of_full (h : l.isFull = true) (f : Finding) :
    l.add f = { l with dropped := l.dropped + 1 } := if_pos h

theorem add_of_not_full (h : l.isFull = false) (f : Finding) :
    l.add f = { l with findings := l.findings ++ [f.inPart l.part] } := by
  simp [add, h]

def fitting (l : Ledger) (fs : List Finding) : List Finding :=
  if l.bound = 0 then fs else fs.take (l.bound - l.size)

theorem fitting_prefix (l : Ledger) (fs : List Finding) : l.fitting fs <+: fs := by
  rw [fitting]
  split
  · exact List.prefix_rfl
  · exact List.take_prefix _ fs

theorem fitting_of_full (h : l.isFull = true) (fs : List Finding) : l.fitting fs = [] := by
  simp only [isFull, Bool.and_eq_true, decide_eq_true_eq] at h
  rw [fitting, if_neg (by omega), Nat.sub_eq_zero_of_le h.2, List.take_zero]

theorem fitting_cons (h : l.isFull = false) (f g : Finding) (fs : List Finding) :
    l.fitting (f :: fs) = f :: (l.add g).fitting fs := by
  have hsize : (l.add g).size = l.size + 1 := by simp [add_of_not_full h, size]
  have hbound : (l.add g).bound = l.bound := by rw [add_of_not_full h]
  rw [fitting, fitting, hbound, hsize]
  split
  · rfl
  · next hpos =>
      simp only [isFull, Bool.and_eq_false_iff, decide_eq_false_iff_not] at h
      rw [show l.bound - l.size = (l.bound - (l.size + 1)) + 1 by omega, List.take_succ_cons]

theorem addAll_eq (l : Ledger) (fs : List Finding) :
    let gs := fs.map fun f => f.inPart l.part
    l.addAll fs = { l with
      findings := l.findings ++ l.fitting gs
      dropped := l.dropped + (gs.length - (l.fitting gs).length) } := by
  induction fs generalizing l with
  | nil => simp [addAll, fitting]
  | cons f fs ih =>
      simp only [List.length_map] at ih
      simp only [List.map_cons, List.length_cons, List.length_map]
      rw [addAll, List.foldl_cons, ← addAll, ih]
      cases hfull : l.isFull with
      | true =>
          have hstill : ({ l with dropped := l.dropped + 1 } : Ledger).isFull = true := hfull
          simp only [add_of_full hfull, fitting_of_full hfull, fitting_of_full hstill,
            List.length_nil, Nat.sub_zero, Ledger.mk.injEq, true_and]
          omega
      | false =>
          rw [fitting_cons hfull (f.inPart l.part) f]
          simp [add_of_not_full hfull]

theorem findings_addAll (h : l.bound = 0 ∨ l.size ≤ l.bound) :
    (l.addAll fs).findings = firstOf l.bound (l.findings ++ fs.map (fun f => f.inPart l.part)) := by
  rw [addAll_eq, firstOf, fitting]
  split
  · rfl
  · next hpos =>
      have hle : l.size ≤ l.bound := h.resolve_left hpos
      rw [List.take_append, List.take_of_length_le hle, size]

theorem size_add_dropped_addAll (l : Ledger) (fs : List Finding) :
    (l.addAll fs).size + (l.addAll fs).dropped = l.size + l.dropped + fs.length := by
  have hle := (l.fitting_prefix (fs.map fun f => f.inPart l.part)).length_le
  rw [addAll_eq]
  simp only [size, List.length_append, List.length_map] at hle ⊢
  omega

theorem exists_of_mem_addAll (h : f ∈ (l.addAll fs).findings) :
    f ∈ l.findings ∨ ∃ g ∈ fs, f = g.inPart l.part := by
  rw [addAll_eq, List.mem_append] at h
  refine h.imp_right fun h => ?_
  obtain ⟨g, hg, rfl⟩ := List.mem_map.mp ((l.fitting_prefix _).subset h)
  exact ⟨g, hg, rfl⟩

theorem part_of_mem_findings {part : Option String} (hp : l.part = part)
    (hl : ∀ g ∈ l.findings, g.part = part) : ∀ g ∈ (l.addAll fs).findings, g.part = part := by
  intro g hg
  rcases exists_of_mem_addAll hg with hg | ⟨g, -, rfl⟩
  · exact hl g hg
  · exact hp

end Ledger

namespace Context

def reported (c : Context) (root : Element) : List Finding :=
  structureFindings c.registry root ++ meaningFindings c.registry c.family c.place root

theorem ledger_checks (c : Context) (root : Element) :
    ((c.checkStructure root).checkMeaning root).ledger = c.ledger.addAll (c.reported root) := by
  rw [checkMeaning_eq, checkStructure_eq, reported, Ledger.addAll_append]
  rfl

/-- Both checks under a registry leave their context as it was but for its ledger, which keeps what
still fits of one list and counts the rest. The list depends on the document, on the registry and on
where the context stands, but not on what was found before, on the bound or on the values under
check. -/
theorem checks_eq (r : Registry) (root : Element) :
    ∃ found : Version → Family → Option (Package × String) → Option String → List Finding,
      ∀ c : Context,
        let fs := found c.registry.version c.family c.place c.ledger.part
        (c.checkStructureBy r root).checkMeaningBy r root = { c with
          ledger := { c.ledger with
            findings := c.ledger.findings ++ c.ledger.fitting fs
            dropped := c.ledger.dropped + (fs.length - (c.ledger.fitting fs).length) } } := by
  refine ⟨fun v f place part => (structureFindings (r.under v) root ++
    meaningFindings r f place root).map fun g => g.inPart part, fun c => ?_⟩
  rw [checkMeaningBy_eq, checkStructureBy_eq]
  change (c.reportAll _).reportAll _ = _
  rw [← reportAll_append, reportAll, Ledger.addAll_eq]
  rfl

end Context

end OfficeSchema
