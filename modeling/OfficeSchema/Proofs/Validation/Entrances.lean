import OfficeSchema.Proofs.Validation.Draining

/-!
Entrances of a validation. An element is let in only if its kind is registered; a part is let in
whatever its root is. Below a root that nothing governs only rules across nodes are checked.
-/

namespace OfficeSchema

def Registry.Governs (r : Registry) (e : Element) : Prop :=
  ∃ k, e.kind? = some k ∧ r.contains k = true

theorem structureFindings_of_not_governed {r : Registry} {e : Element} (h : ¬r.Governs e)
    (hw : ∀ w, e.node ≠ .wrapper w) : structureFindings r e = [] := by
  obtain ⟨n, attributes, text, children⟩ := e
  cases n with
  | typed k i c =>
      have hnone : r.entry? k = none := by
        cases hk : r.entry? k with
        | none => rfl
        | some entry => exact (h ⟨k, rfl, by rw [Registry.contains, hk]; rfl⟩).elim
      have hentered : (Node.typed k i c).isEntered r = false := by
        cases c with
        | composite => rw [Node.isEntered, Registry.contains, hnone]; rfl
        | _ => rfl
      simp [structureFindings, treeFindings, nodeFindings, Registry.lookup?, hnone, hentered]
  | wrapper w => exact (hw w rfl).elim
  | _ => rfl

namespace Validator

variable {v : Validator} {k : Package} {r : Registry} {uri : String} {e : Element}

theorem beginning_ok_iff (v : Validator) (objection : Except Error Unit)
    (inquiry : Registry → Except Error Inquiry) :
    (∃ q, (v.beginning objection inquiry).1 = .ok q) ↔
      objection = .ok () ∧ ∃ r, v.registry.1 = .ok r ∧ ∃ q, inquiry r = .ok q := by
  cases objection with
  | error x => simp [beginning]
  | ok u =>
      rcases hr : v.registry with ⟨outcome, w⟩
      cases outcome with
      | error x => simp [beginning, hr]
      | ok r => simp [beginning, hr]

theorem validatePart_ok_iff (hc : v.checkProcessing k = .ok ())
    (he : (k.part? uri).bind Part.root = some e) :
    (∃ q, (v.validatePart k uri).1 = .ok q) ↔ ∃ r, v.registry.1 = .ok r := by
  have hobjection : (checkPart k uri >>= fun _ => v.checkProcessing k) = .ok () := by
    rw [checkPart_of_rooted (Package.mem_rooted_iff.mpr ⟨e, he⟩)]
    exact hc
  rw [validatePart, beginning_ok_iff]
  simp [hobjection]

theorem validateElement_ok_iff (v : Validator) (e : Element) :
    (∃ q, (v.validateElement e).1 = .ok q) ↔ ∃ r, v.registry.1 = .ok r ∧ r.Governs e := by
  rw [validateElement]
  cases he : e.kind? with
  | none => simp [Registry.Governs, he]
  | some kind =>
      simp only [beginning_ok_iff, true_and, Registry.Governs, he, Option.some.injEq,
        exists_eq_left']
      apply exists_congr
      intro r
      cases r.contains kind <;> simp

theorem drain_of_not_governed (hc : v.checkProcessing k = .ok ()) (hr : v.registry.1 = .ok r)
    (he : (k.part? uri).bind Part.root = some e) (h : ¬r.Governs e)
    (hw : ∀ w, e.node ≠ .wrapper w) : ∃ q, (v.validatePart k uri).1 = .ok q ∧
      q.drain.1 = firstOf v.settings.bound
        ((meaningFindings r k.family (some (k, uri)) e).map (fun f => f.inPart (some uri))) := by
  refine ⟨_, validatePart_of_rooted hc hr (Package.mem_rooted_iff.mpr ⟨e, he⟩), ?_⟩
  have hreported : ((Context.start r 0).inPart k uri).reported e =
      meaningFindings r k.family (some (k, uri)) e := by
    rw [Context.reported]
    exact congrArg (· ++ _) (structureFindings_of_not_governed h hw)
  have htarget : Inquiry.targetFindings r (some k) 0 (.part uri) =
      (meaningFindings r k.family (some (k, uri)) e).map (fun f => f.inPart (some uri)) := by
    simp only [Inquiry.targetFindings, he]
    rw [Context.checkAll, Context.ledger_checks, Ledger.findings_addAll (.inl rfl), hreported]
    rfl
  rw [Inquiry.drain_eq_left, Inquiry.left, Inquiry.unbounded]
  simp only [Inquiry.begin, List.nil_append, List.flatMap_singleton, htarget]
  rfl

theorem validatePart_agrees_iff (hc : v.checkProcessing k = .ok ())
    (he : (k.part? uri).bind Part.root = some e) :
    (((∃ q, (v.validatePart k uri).1 = .ok q) ↔ ∃ q, (v.validateElement e).1 = .ok q) ↔
      ∀ r, v.registry.1 = .ok r → r.Governs e) ∧
    ∀ r, v.registry.1 = .ok r → ¬r.Governs e → (∀ w, e.node ≠ .wrapper w) →
      ∃ q, (v.validatePart k uri).1 = .ok q ∧ q.drain.1 = firstOf v.settings.bound
        ((meaningFindings r k.family (some (k, uri)) e).map (fun f => f.inPart (some uri))) := by
  refine ⟨?_, fun r hr h hw => drain_of_not_governed hc hr he h hw⟩
  rw [validatePart_ok_iff hc he, validateElement_ok_iff]
  constructor
  · intro hiff r hr
    obtain ⟨s, hs, hgoverns⟩ := hiff.mp ⟨r, hr⟩
    obtain rfl : s = r := Except.ok.inj (hs.symm.trans hr)
    exact hgoverns
  · intro h
    constructor
    · rintro ⟨r, hr⟩
      exact ⟨r, hr, h r hr⟩
    · rintro ⟨r, hr, -⟩
      exact ⟨r, hr⟩

theorem validatePart_agrees_iff_registered_root :
    ∃ (v : Validator) (k : Package) (r : Registry) (e : Element),
      v.checkProcessing k = .ok () ∧ (k.part? "/a").bind Part.root = some e ∧
        v.registry.1 = .ok r ∧ r.Governs e ∧
        ((∃ q, (v.validatePart k "/a").1 = .ok q) ↔ ∃ q, (v.validateElement e).1 = .ok q) := by
  let shelf : RegistryShelf := .ofDeclarations .standard [.bare ⟨"w:b"⟩ ⟨23, "b"⟩ .empty]
  let v : Validator := .ofShelf shelf
  let e : Element := .ofNode (.typed ⟨"w:b"⟩ ⟨23, "b"⟩ .empty)
  let k : Package := { Package.empty .word with parts := [⟨"/a", some e, []⟩] }
  obtain ⟨r, hr⟩ : ∃ r, v.registry.1 = .ok r := ⟨_, rfl⟩
  have hgoverns : r.Governs e := by
    obtain rfl := Except.ok.inj hr
    exact ⟨⟨"w:b"⟩, rfl, rfl⟩
  refine ⟨v, k, r, e, rfl, rfl, hr, hgoverns, ?_⟩
  apply (validatePart_agrees_iff (v := v) (k := k) rfl rfl).1.mpr
  intro s hs
  obtain rfl := Except.ok.inj (hs.symm.trans hr)
  exact hgoverns

theorem validatePart_unknown_root :
    ∃ (v : Validator) (k : Package) (e : Element) (q : Inquiry),
      v.checkProcessing k = .ok () ∧ (k.part? "/a").bind Part.root = some e ∧
        (v.validatePart k "/a").1 = .ok q ∧ q.drain.1 = [] ∧
        (v.validateElement e).1 = .error (.notGoverned "x") := by
  let shelf : RegistryShelf := .ofDeclarations .standard [.bare ⟨"w:b"⟩ ⟨23, "b"⟩ .empty]
  let v : Validator := .ofShelf shelf
  let e : Element := .ofNode (.unknown "x" none)
  let k : Package := { Package.empty .word with parts := [⟨"/a", some e, []⟩] }
  refine ⟨v, k, e, _, rfl, rfl, rfl, ?_, rfl⟩
  rw [Inquiry.drain_eq_left]
  rfl

end Validator

end OfficeSchema
