import OfficeSchema.Proofs.Catalog.Loading
import OfficeSchema.Proofs.Registry.Building

namespace OfficeSchema

namespace Catalog

open Registry (Admissible Offends availableIn)

def elementNames (c : Catalog) (v : Version) : List String :=
  (availableIn v c.declarations).map (fun d => d.kind.name)

/-- A prefix, a colon and a name without a colon. -/
def WellNamed (name : String) : Prop :=
  ∃ label rest, Text.splitColon name = some (label, rest) ∧ Name.isValid rest = true

variable {c : Catalog} {ds before : List Declaration} {d : Declaration} {e : Error}

theorem Named.identity_eq_iff (h : c.Named) {d d' : Declaration} (hd : d ∈ c.declarations)
    (hd' : d' ∈ c.declarations) : d.identity = d'.identity ↔ d.kind = d'.kind := by
  have hi := h.identities d hd
  have hi' := h.identities d' hd'
  constructor
  · intro heq
    rw [← heq] at hi'
    have hname := h.oneToOne.identity_inj hi hi'
    cases hk : d.kind
    cases hk' : d'.kind
    rw [hk, hk'] at hname
    exact congrArg Kind.mk hname
  · intro heq
    rw [heq] at hi
    exact Except.ok.inj (hi.symm.trans hi')

theorem Named.wellNamed_iff (h : c.Named) (hd : d ∈ c.declarations) :
    WellNamed d.kind.name ↔ Name.isValid d.identity.localName = true := by
  obtain ⟨label, hname, -⟩ := Namespace.Table.identity_eq_ok_iff.mp (h.identities d hd)
  constructor
  · rintro ⟨label', rest, hname', hrest⟩
    obtain ⟨-, rfl⟩ := Prod.mk.inj (Option.some.inj (hname.symm.trans hname'))
    exact hrest
  · exact fun hvalid => ⟨label, _, hname, hvalid⟩

theorem Named.placed (h : c.Named) (hd : d ∈ c.declarations) :
    (c.namespaces.get? d.identity.namespaceId).isSome = true := by
  obtain ⟨label, -, hid⟩ := Namespace.Table.identity_eq_ok_iff.mp (h.identities d hd)
  exact Namespace.Table.isSome_get?_of_idOfPrefix? hid

theorem Named.nodup_identities_iff (h : c.Named) (hds : ∀ d ∈ ds, d ∈ c.declarations) :
    (ds.map Declaration.identity).Nodup ↔ (ds.map Declaration.kind).Nodup := by
  rw [List.Nodup, List.Nodup, List.pairwise_map, List.pairwise_map]
  exact List.Pairwise.iff_of_mem fun hx hy =>
    not_congr (h.identity_eq_iff (hds _ hx) (hds _ hy))

theorem nodup_kinds_iff (ds : List Declaration) :
    (ds.map Declaration.kind).Nodup ↔ (ds.map (fun d => d.kind.name)).Nodup := by
  have hname : Function.Injective Kind.name := fun ⟨_⟩ ⟨_⟩ h => congrArg Kind.mk h
  rw [← List.nodup_map_iff hname, List.map_map]
  rfl

theorem mem_of_available {v : Version} (hd : d ∈ availableIn v c.declarations) :
    d ∈ c.declarations :=
  List.mem_of_mem_filter hd

theorem Named.admissible_iff (h : c.Named) (v : Version) :
    Admissible c.namespaces (availableIn v c.declarations) ↔
      (c.elementNames v).Nodup ∧ ∀ name ∈ c.elementNames v, WellNamed name := by
  rw [elementNames, List.forall_mem_map, ← nodup_kinds_iff]
  constructor
  · intro ha
    exact ⟨ha.kinds, fun d hd => (h.wellNamed_iff (mem_of_available hd)).mpr (ha.named d hd)⟩
  · rintro ⟨hkinds, hnamed⟩
    exact ⟨fun d hd => (h.wellNamed_iff (mem_of_available hd)).mp (hnamed d hd),
      fun d hd => h.placed (mem_of_available hd),
      (h.nodup_identities_iff fun d hd => mem_of_available hd).mpr hkinds, hkinds⟩

theorem Named.offends_cases (h : c.Named) (hbefore : ∀ x ∈ before, x ∈ c.declarations)
    (hd : d ∈ c.declarations) (he : Offends c.namespaces before d e) :
    (∃ name, e = .invalidName name) ∨ ∃ i k l, e = .duplicateIdentity i k l := by
  cases he with
  | name _ => exact .inl ⟨_, rfl⟩
  | «namespace» _ hspace =>
      have hplaced := h.placed hd
      rw [hspace] at hplaced
      simp at hplaced
  | identity _ _ _ _ => exact .inr ⟨_, _, _, rfl⟩
  | kind _ _ hid hkind =>
      -- a kind that stands there has its identity there, which was looked for first
      obtain ⟨first, hfirst, hk⟩ := List.mem_map.mp hkind
      have heq := (h.identity_eq_iff (hbefore _ hfirst) hd).mpr hk
      exact absurd (List.mem_map.mpr ⟨first, hfirst, heq⟩) hid

/-- The elements of a catalog that was read keep their names, which stand for the same identity
only if they are the same; a version has a registry exactly if the names of its elements are
distinct and well formed, and no other fault can refuse it. -/
theorem registry_of_distinct_names {s : String} (h : ofText s = .ok c) :
    (∃ l, Listing.ofText s = .ok l ∧
      l.elements.map (fun e => e.name) = c.declarations.map (fun d => d.kind.name)) ∧
    (∀ d ∈ c.declarations, c.namespaces.identity d.kind.name = .ok d.identity) ∧
    (∀ x y i j, c.namespaces.identity x = .ok i → c.namespaces.identity y = .ok j →
      (i = j ↔ x = y)) ∧
    (∀ v, (∃ r, c.registry v = .ok r) ↔
      (c.elementNames v).Nodup ∧ ∀ name ∈ c.elementNames v, WellNamed name) ∧
    ∀ v e, c.registry v = .error e →
      (∃ name, e = .invalidName name) ∨ ∃ i k l, e = .duplicateIdentity i k l := by
  obtain ⟨l, hl, hlisting⟩ := bind_eq_ok_iff.mp h
  have hnamed : c.Named := named_ofListing hlisting
  refine ⟨⟨l, hl, names_ofListing hlisting⟩, hnamed.identities, fun x y i j hx hy => ?_,
    fun v => ?_, fun v e he => ?_⟩
  · constructor
    · rintro rfl
      exact hnamed.oneToOne.identity_inj hx hy
    · rintro rfl
      exact Except.ok.inj (hx.symm.trans hy)
  · rw [← hnamed.admissible_iff v, registry]
    exact ⟨fun ⟨r, hr⟩ => (Registry.build_eq_ok_iff.mp hr).1,
      fun ha => ⟨_, Registry.build_admissible ha⟩⟩
  · obtain ⟨before, d, after, hds, -, hd⟩ := Registry.build_eq_error_iff.mp he
    have hmem (x : Declaration) (hx : x ∈ before ++ d :: after) : x ∈ c.declarations :=
      mem_of_available (hds ▸ hx)
    exact hnamed.offends_cases (fun x hx => hmem x (by simp [hx])) (hmem d (by simp)) hd

/-- A listing that registers a known namespace again, gives its prefix to another one, and lists
one element twice, the second time for a later version. -/
def crowdedListing : String :=
  "\x7b\"namespaces\":[" ++
    "[23,\"word\",\"http://schemas.openxmlformats.org/wordprocessingml/2006/main\"]," ++
    "[80,\"w\",\"urn:w\"],[81,\"v\",\"urn:v\"]],\"elements\":[" ++
    "[\"w:p\",null,null,null,null],[\"v:p\",null,null,null,null]," ++
    "[\"w:p\",null,\"Office2010\",null,null]]\x7d"

theorem registry_of_distinct_names_crowded : ∃ c, ofText crowdedListing = .ok c ∧
    c.elementNames .office2007 = ["w:p", "v:p"] ∧
    c.elementNames .office2010 = ["w:p", "v:p", "w:p"] ∧
    (∃ r, c.registry .office2007 = .ok r) ∧ ¬∃ r, c.registry .office2010 = .ok r := by
  have h : (ofText crowdedListing).toOption.map
      (fun c => (c.elementNames .office2007, c.elementNames .office2010)) =
      some (["w:p", "v:p"], ["w:p", "v:p", "w:p"]) := by
    decide +kernel
  obtain ⟨c, hc, hnames⟩ := Option.map_eq_some_iff.mp h
  obtain ⟨hearly, hlate⟩ := Prod.mk.inj hnames
  have hok := eq_ok_of_toOption hc
  obtain ⟨-, -, -, hregistry, -⟩ := registry_of_distinct_names hok
  refine ⟨c, hok, hearly, hlate, (hregistry _).mpr ?_, fun hr => ?_⟩
  · rw [hearly, List.forall_mem_cons, List.forall_mem_singleton]
    exact ⟨by decide +kernel, ⟨"w", "p", by decide +kernel, by decide +kernel⟩, "v", "p",
      by decide +kernel, by decide +kernel⟩
  · have hnodup := ((hregistry _).mp hr).1
    rw [hlate] at hnodup
    exact absurd hnodup (by decide +kernel)

end Catalog

end OfficeSchema
