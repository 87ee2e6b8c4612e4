import OfficeSchema.Catalog
import OfficeSchema.Proofs.Attempts
import OfficeSchema.Proofs.Namespace.Correspondence

namespace OfficeSchema

theorem Namespace.named_eq_ok_iff {α : Type} {x : Except Problem α} {a : α} :
    named x = .ok a ↔ x = .ok a := by
  cases x with
  | error p => simp [named]
  | ok b => simp [named]

namespace Catalog

open Namespace (Table)

variable {c c' : Catalog} {l : Listing} {e : Listing.ElementEntry} {d : Declaration} {s : String}

theorem declarationOf_eq_ok (h : c.declarationOf e = .ok d) :
    ∃ capability identity content text attributes constraints,
      capabilityOf e = .ok capability ∧ c.namespaces.identity e.name = .ok identity ∧
      contentOf e capability = .ok content ∧ c.textOf e capability = .ok text ∧
      e.attributes.mapM c.attributeOf = .ok attributes ∧
      e.constraints.mapM c.constraintOf = .ok constraints ∧
      d = ⟨⟨e.name⟩, identity, capability, content, text, attributes, constraints,
        e.since.getD .office2007⟩ := by
  obtain ⟨capability, hcapability, h⟩ := bind_eq_ok_iff.mp h
  obtain ⟨bare, hbare, h⟩ := bind_eq_ok_iff.mp h
  obtain ⟨content, hcontent, h⟩ := bind_eq_ok_iff.mp h
  obtain ⟨text, htext, h⟩ := bind_eq_ok_iff.mp h
  obtain ⟨attributes, hattributes, h⟩ := bind_eq_ok_iff.mp h
  obtain ⟨constraints, hconstraints, h⟩ := bind_eq_ok_iff.mp h
  obtain ⟨identity, hidentity, rfl⟩ := map_eq_ok_iff.mp hbare
  exact ⟨capability, identity, content, text, attributes, constraints, hcapability,
    Namespace.named_eq_ok_iff.mp hidentity, hcontent, htext, hattributes, hconstraints,
    (Except.ok.inj h).symm⟩

theorem namespaces_addTypes {ts : List (String × Listing.TypeEntry)}
    (h : addTypes ts c = .ok c') : c'.namespaces = c.namespaces := by
  induction ts generalizing c with
  | nil =>
      obtain rfl := Except.ok.inj h
      rfl
  | cons t ts ih =>
      rw [addTypes] at h
      split at h
      · next type htype => exact ih (c := c.addType t.1 type) h
      · simp at h

theorem ofListing_eq_ok (h : ofListing l = .ok c) :
    Table.insertAll l.namespaces .standard = .ok c.namespaces ∧
      (∃ c', addTypes l.types { empty with namespaces := c.namespaces } = .ok c' ∧
        c'.types = c.types) ∧
      List.Forall₂ (fun e d => c.declarationOf e = .ok d) l.elements c.declarations := by
  obtain ⟨t, ht, h⟩ := bind_eq_ok_iff.mp h
  obtain ⟨c', hc', h⟩ := bind_eq_ok_iff.mp h
  obtain ⟨ds, hds, h⟩ := bind_eq_ok_iff.mp h
  obtain rfl := Except.ok.inj h
  obtain rfl : c'.namespaces = t := namespaces_addTypes hc'
  -- a declaration is made from the namespaces and the types only
  exact ⟨Namespace.named_eq_ok_iff.mp ht, ⟨c', hc', rfl⟩, forall₂_of_mapM hds⟩

theorem names_ofListing (h : ofListing l = .ok c) :
    l.elements.map (fun e => e.name) = c.declarations.map (fun d => d.kind.name) := by
  obtain ⟨-, -, hds⟩ := ofListing_eq_ok h
  refine map_eq_of_forall₂ hds fun e d hd => ?_
  obtain ⟨_, _, _, _, _, _, -, -, -, -, -, -, rfl⟩ := declarationOf_eq_ok hd
  rfl

/-- A catalog whose declarations are named by its own namespaces. -/
structure Named (c : Catalog) : Prop where
  oneToOne : c.namespaces.OneToOne
  identities : ∀ d ∈ c.declarations, c.namespaces.identity d.kind.name = .ok d.identity

theorem named_ofListing (h : ofListing l = .ok c) : c.Named := by
  obtain ⟨hspaces, -, hds⟩ := ofListing_eq_ok h
  refine ⟨Table.oneToOne_standard.insertAll hspaces, forall_mem_of_forall₂ hds fun e d hd => ?_⟩
  obtain ⟨_, i, _, _, _, _, -, hi, -, -, -, -, rfl⟩ := declarationOf_eq_ok hd
  exact hi

end Catalog

end OfficeSchema
