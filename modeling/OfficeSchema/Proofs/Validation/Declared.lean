import Mathlib.Data.List.Basic
import OfficeSchema.Check.Structure
import OfficeSchema.Proofs.Findings

namespace OfficeSchema

variable {v : Version} {d : Declaration} {node : NodeRef} {e : Element} {a : Attribute}

namespace Declaration

def offers (d : Declaration) (v : Version) (a : Attribute) : Bool :=
  d.attributes.any (fun decl => decl.isAvailable v && decl.declares a.namespaceId a.localName)

def undeclared (d : Declaration) (v : Version) (e : Element) : List Attribute :=
  e.attributes.filter (fun a => !a.isExempt && !d.offers v a)

def unmet (d : Declaration) (v : Version) (e : Element) : List AttributeDecl :=
  d.attributes.filter (fun decl => decl.required && decl.isAvailable v &&
    !e.attributes.any (fun a => a.answers decl.namespaceId decl.localName))

/-- Wherever a version has a declaration of a name that is looked up, it has the first one. -/
def Settled (d : Declaration) (v : Version) : Prop :=
  ∀ decl ∈ d.attributes, decl.isAvailable v = true →
    decl.namespaceId ≠ some Namespace.compatibilityId →
      ∃ first, d.attribute? decl.namespaceId decl.localName = some first ∧
        first.isAvailable v = true

theorem offers_iff : d.offers v a = true ↔ ∃ decl ∈ d.attributes, decl.isAvailable v = true ∧
    decl.namespaceId = a.namespaceId ∧ decl.localName = a.localName := by
  simp [offers, AttributeDecl.declares]

theorem isSome_declarationOf?_iff : (declarationOf? v d a).isSome = true ↔
    ∃ first, d.attribute? a.namespaceId a.localName = some first ∧ first.isAvailable v = true := by
  rw [declarationOf?, Option.isSome_iff_exists]
  simp only [Option.filter_eq_some_iff]

theorem offers_of_declarationOf? (h : (declarationOf? v d a).isSome = true) :
    d.offers v a = true := by
  obtain ⟨first, hfirst, hv⟩ := isSome_declarationOf?_iff.mp h
  have hdeclares := List.find?_some hfirst
  simp only [AttributeDecl.declares, Bool.and_eq_true, beq_iff_eq] at hdeclares
  exact offers_iff.mpr ⟨first, List.mem_of_find?_eq_some hfirst, hv, hdeclares⟩

theorem Settled.isSome_declarationOf? (h : d.Settled v) (ha : a.isExempt = false)
    (hd : d.offers v a = true) : (declarationOf? v d a).isSome = true := by
  obtain ⟨decl, hdecl, hv, hid, hname⟩ := offers_iff.mp hd
  have hcompat : decl.namespaceId ≠ some Namespace.compatibilityId := by
    intro hc
    simp [Attribute.isExempt, ← hid, hc] at ha
  rw [isSome_declarationOf?_iff, ← hid, ← hname]
  exact h decl hdecl hv hcompat

end Declaration

theorem attributeFindings_cases (v : Version) (d : Declaration) (node : NodeRef) (a : Attribute) :
    (!a.isExempt && (declarationOf? v d a).isNone) = true ∧ attributeFindings v d node a =
        [.ofDefect (node.withAttribute a.name) (.undeclaredAttribute a.name)] ∨
      (!a.isExempt && (declarationOf? v d a).isNone) = false ∧
        ∀ f ∈ attributeFindings v d node a, f.defect.rule ∈ valueRules := by
  unfold attributeFindings
  cases ha : a.isExempt with
  | true => exact .inr ⟨rfl, by simp⟩
  | false =>
      cases hd : declarationOf? v d a with
      | none => exact .inl ⟨rfl, rfl⟩
      | some decl => exact .inr ⟨rfl, fun f hf => ValueFrame.rule_mem_valueRules hf⟩

theorem flatMap_ite_singleton {α β : Type} (p : α → Bool) (f : α → β) (l : List α) :
    l.flatMap (fun a => if p a = true then [f a] else []) = (l.filter p).map f := by
  induction l with
  | nil => rfl
  | cons a l ih =>
      rw [List.flatMap_cons, ih, List.filter_cons]
      split
      · rfl
      · rfl

theorem undeclaredFindings_eq (v : Version) (d : Declaration) (node : NodeRef) (e : Element) :
    underRule "Sch_UndeclaredAttribute" (attributesFindings v d node e) =
      (e.attributes.filter (fun a => !a.isExempt && (declarationOf? v d a).isNone)).map
        (fun a => .ofDefect (node.withAttribute a.name) (.undeclaredAttribute a.name)) := by
  have hmissing : underRule "Sch_UndeclaredAttribute"
      ((missingAttributes v d e).map (.ofDefect node)) = [] := by
    apply underRule_eq_nil
    intro f hf
    obtain ⟨_, hdefect, rfl⟩ := List.mem_map.mp hf
    obtain ⟨decl, -, rfl⟩ := List.mem_map.mp hdefect
    simp [Finding.ofDefect, Defect.rule]
  rw [attributesFindings, underRule_append, hmissing, List.nil_append, underRule_flatMap,
    ← flatMap_ite_singleton]
  congr 1
  funext a
  rcases attributeFindings_cases v d node a with ⟨ha, heq⟩ | ⟨ha, hrule⟩
  · rw [heq, if_pos ha]
    exact underRule_eq_self fun f hf => by rw [List.mem_singleton.mp hf]; rfl
  · rw [ha, if_neg Bool.false_ne_true]
    exact underRule_eq_nil fun f hf hr => absurd (hr ▸ hrule f hf) (by decide)

theorem missingFindings_eq (v : Version) (d : Declaration) (node : NodeRef) (e : Element) :
    underRule "Sch_MissRequiredAttribute" (attributesFindings v d node e) =
      (d.unmet v e).map (fun decl => .ofDefect node (.missingAttribute decl.name)) := by
  have hattributes : underRule "Sch_MissRequiredAttribute"
      (e.attributes.flatMap (attributeFindings v d node)) = [] := by
    apply underRule_eq_nil
    intro f hf hr
    obtain ⟨a, -, hf⟩ := List.mem_flatMap.mp hf
    rcases attributeFindings_cases v d node a with ⟨-, heq⟩ | ⟨-, hrule⟩
    · rw [heq] at hf
      obtain rfl := List.mem_singleton.mp hf
      simp [Finding.ofDefect, Defect.rule] at hr
    · exact absurd (hr ▸ hrule f hf) (by decide)
  have hmissing : (missingAttributes v d e).map (Finding.ofDefect node) =
      (d.unmet v e).map (fun decl => .ofDefect node (.missingAttribute decl.name)) := by
    have hnone (decl : AttributeDecl) :
        (e.attribute? decl.namespaceId decl.localName).isNone =
          !e.attributes.any (fun a => a.answers decl.namespaceId decl.localName) := by
      rw [Element.attribute?, Bool.eq_iff_iff]
      simp
    simp only [missingAttributes, Declaration.unmet, hnone, List.map_map]
    rfl
  rw [attributesFindings, underRule_append, hattributes, List.append_nil, hmissing]
  apply underRule_eq_self
  intro f hf
  obtain ⟨decl, -, rfl⟩ := List.mem_map.mp hf
  rfl

theorem isNone_declarationOf? (h : d.offers v a = false) :
    (declarationOf? v d a).isNone = true := by
  rw [Option.isNone_iff_eq_none, ← Option.not_isSome_iff_eq_none]
  intro hsome
  simp [Declaration.offers_of_declarationOf? hsome] at h

theorem filter_undeclared_of_settled (h : d.Settled v) (e : Element) :
    e.attributes.filter (fun a => !a.isExempt && (declarationOf? v d a).isNone) =
      d.undeclared v e := by
  apply List.filter_congr
  intro a _
  cases ha : a.isExempt with
  | true => rfl
  | false =>
      cases hd : d.offers v a with
      | true => simpa using h.isSome_declarationOf? ha hd
      | false => simpa using isNone_declarationOf? hd

theorem undeclared_sublist (v : Version) (d : Declaration) (e : Element) :
    (d.undeclared v e).Sublist
      (e.attributes.filter (fun a => !a.isExempt && (declarationOf? v d a).isNone)) := by
  apply List.monotone_filter_right
  intro a ha
  simp only [Bool.and_eq_true, Bool.not_eq_true'] at ha ⊢
  exact ⟨ha.1, isNone_declarationOf? ha.2⟩

def AttributeDecl.sample (decl : AttributeDecl) : Attribute :=
  ⟨some "", decl.localName, decl.namespaceId, none, ""⟩

theorem isExempt_sample {decl : AttributeDecl}
    (h : decl.namespaceId ≠ some Namespace.compatibilityId) : decl.sample.isExempt = false := by
  simp [AttributeDecl.sample, Attribute.isExempt, Attribute.isDeclaration, Attribute.isExtension, h]

theorem settled_of_sample (h : ∀ decl ∈ d.attributes, decl.isAvailable v = true →
    decl.sample.isExempt = false → (declarationOf? v d decl.sample).isSome = true) :
    d.Settled v := by
  intro decl hdecl hv hcompat
  exact Declaration.isSome_declarationOf?_iff.mp (h decl hdecl hv (isExempt_sample hcompat))

/-- Each unmet declaration gives one finding, and each undeclared attribute gives one. No others are
called undeclared, whatever the element, exactly if the declarations of the kind are settled. -/
theorem undeclared_found_iff_settled (v : Version) (d : Declaration) :
    (∀ node e, underRule "Sch_MissRequiredAttribute" (attributesFindings v d node e) =
      (d.unmet v e).map (fun decl => .ofDefect node (.missingAttribute decl.name))) ∧
    (∀ node e, ((d.undeclared v e).map (fun a =>
      Finding.ofDefect (node.withAttribute a.name) (.undeclaredAttribute a.name))).Sublist
        (underRule "Sch_UndeclaredAttribute" (attributesFindings v d node e))) ∧
    ((∀ node e, underRule "Sch_UndeclaredAttribute" (attributesFindings v d node e) =
      (d.undeclared v e).map (fun a =>
        .ofDefect (node.withAttribute a.name) (.undeclaredAttribute a.name))) ↔ d.Settled v) := by
  refine ⟨missingFindings_eq v d, fun node e => ?_, fun h => ?_, fun h node e => ?_⟩
  · rw [undeclaredFindings_eq]
    exact (undeclared_sublist v d e).map _
  · apply settled_of_sample
    intro decl hdecl hv hexempt
    -- an element with nothing but the attribute that is declared
    have hfound := h ⟨[], ⟨"", 1⟩, none⟩ ⟨.unknown "" none, [decl.sample], none, []⟩
    have hoffers : d.offers v decl.sample = true :=
      Declaration.offers_iff.mpr ⟨decl, hdecl, hv, rfl, rfl⟩
    rw [undeclaredFindings_eq] at hfound
    simpa [Declaration.undeclared, hexempt, hoffers, ← Option.ne_none_iff_isSome] using hfound
  · rw [undeclaredFindings_eq, filter_undeclared_of_settled h]

theorem undeclared_found_for_declared :
    let d : Declaration :=
      { Declaration.bare ⟨"w:p"⟩ ⟨23, "p"⟩ .composite with
        attributes :=
          [⟨"w:a", some 23, "a", .string, false, some .office2010⟩,
           ⟨"w:a", some 23, "a", .string, false, none⟩] }
    let a : Attribute := ⟨some "w", "a", some 23, none, "1"⟩
    let e : Element := ⟨.typed ⟨"w:p"⟩ ⟨23, "p"⟩ .composite, [a], none, []⟩
    a.isExempt = false ∧ d.offers .office2007 a = true ∧
      underRule "Sch_UndeclaredAttribute" (attributesFindings .office2007 d (.root e) e) =
        [.ofDefect ((NodeRef.root e).withAttribute "w:a") (.undeclaredAttribute "w:a")] := by
  refine ⟨by decide, by decide, ?_⟩
  rw [undeclaredFindings_eq]
  rfl

end OfficeSchema
