import OfficeSchema.Proofs.Registry.Soundness
import Std.Data.HashMap

/-!
Registries as maps. Kinds by identity and registrations by kind are filled side by side, each with
its own lookups to refuse a declaration; they give the answers of the list of registrations, and a
build over them fails where a build over the list does.
-/

namespace OfficeSchema

def Registration.of (v : Version) (d : Declaration) : Registration :=
  ⟨d, match d.capability with
    | .composite => some (Content.fresh (d.content.getD .nothing) v)
    | .text | .empty => none⟩

namespace Registry

/-- Registrations by key: the kinds in order, the registrations by kind, and the kinds that
identities stand for. -/
structure Index where
  version : Version
  namespaces : Namespace.Table
  order : List Kind
  entries : Std.HashMap Kind Registration
  kinds : Std.HashMap Identity Kind

namespace Index

def empty (v : Version) (t : Namespace.Table) : Index := ⟨v, t, [], ∅, ∅⟩

def register (x : Index) (d : Declaration) : Index :=
  { x with
    order := x.order ++ [d.kind]
    entries := x.entries.insert d.kind (.of x.version d)
    kinds := x.kinds.insert d.identity d.kind }

def accept (x : Index) (d : Declaration) : Except Error Index :=
  if !d.isAvailable x.version then .ok x
  else if !Name.isValid d.identity.localName then
    .error (.invalidName d.identity.localName)
  else if (x.namespaces.get? d.identity.namespaceId).isNone then
    .error (.naming (.unregistered d.kind.name d.identity.namespaceId))
  else match x.kinds[d.identity]? with
    | some first => .error (.duplicateIdentity d.identity first d.kind)
    | none =>
        if x.entries.contains d.kind then .error (.catalog (.kindTwice d.kind))
        else .ok (x.register d)

def acceptAll : List Declaration → Index → Except Error Index
  | [], x => .ok x
  | d :: ds, x =>
      match x.accept d with
      | .ok y => acceptAll ds y
      | .error e => .error e

def build (v : Version) (t : Namespace.Table) (ds : List Declaration) : Except Error Index :=
  acceptAll ds (.empty v t)

def list (x : Index) : List Registration := x.order.filterMap (fun k => x.entries[k]?)

structure Mirrors (x : Index) (r : Registry) : Prop where
  version : x.version = r.version
  namespaces : x.namespaces = r.namespaces
  present : ∀ k ∈ x.order, r.contains k = true
  list : x.list = r.entries
  entry : ∀ k, x.entries[k]? = r.entry? k
  kind : ∀ i, x.kinds[i]? = r.kindOf? i

variable {x : Index} {r : Registry} {d : Declaration}

theorem mirrors_empty (v : Version) (t : Namespace.Table) : (empty v t).Mirrors ⟨v, t, []⟩ where
  version := rfl
  namespaces := rfl
  present := by simp [empty]
  list := rfl
  entry := by simp [empty, entry?]
  kind := by simp [empty, kindOf?]

theorem entries_register (r : Registry) (d : Declaration) :
    (r.register d).entries = r.entries ++ [.of r.version d] := rfl

theorem entry?_register (r : Registry) (d : Declaration) (k : Kind) :
    entry? (r.register d) k =
      (r.entry? k).or (if d.kind = k then some (.of r.version d) else none) := by
  simp [entries_register, entry?, List.find?_append, List.find?_singleton, Registration.of]

theorem kindOf?_register (r : Registry) (d : Declaration) (i : Identity) :
    (r.register d).kindOf? i =
      (r.kindOf? i).or (if d.identity = i then some d.kind else none) := by
  rw [kindOf?, kindOf?, entries_register, List.find?_append, Option.map_or]
  by_cases h : d.identity = i <;> simp [Registration.of, h]

theorem Mirrors.contains (h : x.Mirrors r) (k : Kind) : x.entries.contains k = r.contains k := by
  rw [Std.HashMap.contains_eq_isSome_getElem?, h.entry, Registry.contains]

theorem Mirrors.register (h : x.Mirrors r) (hidentity : r.kindOf? d.identity = none)
    (hkind : r.contains d.kind = false) : (x.register d).Mirrors (r.register d) where
  version := h.version
  namespaces := h.namespaces
  present k hmem := by
    rw [Registry.contains, entry?_register, Option.isSome_or, Bool.or_eq_true]
    rcases List.mem_append.mp hmem with hmem | hmem
    · exact .inl (h.present k hmem)
    · simp [List.mem_singleton.mp hmem]
  list := by
    have hold : x.order.filterMap (fun k => (x.entries.insert d.kind (.of x.version d))[k]?) =
        r.entries := by
      rw [← h.list, Index.list]
      apply List.filterMap_congr
      intro k hmem
      have hne : d.kind ≠ k := by
        rintro rfl
        simpa [hkind] using h.present _ hmem
      simp [Std.HashMap.getElem?_insert, hne]
    rw [Index.list, Index.register, List.filterMap_append, hold, entries_register, h.version]
    simp
  entry k := by
    have hnone : r.entry? d.kind = none := by simpa [Registry.contains] using hkind
    rw [Index.register, Std.HashMap.getElem?_insert, h.entry, entry?_register, h.version]
    by_cases hk : d.kind = k
    · simp [← hk, hnone]
    · simp [hk]
  kind i := by
    rw [Index.register, Std.HashMap.getElem?_insert, h.kind, kindOf?_register]
    by_cases hi : d.identity = i
    · simp [← hi, hidentity]
    · simp [hi]

theorem Mirrors.accept (h : x.Mirrors r) (d : Declaration) :
    (∃ e, x.accept d = .error e ∧ r.accept d = .error e) ∨
      ∃ y s, x.accept d = .ok y ∧ r.accept d = .ok s ∧ y.Mirrors s := by
  rw [Index.accept, Registry.accept, h.version, h.namespaces, h.kind, h.contains]
  split
  · exact .inr ⟨x, r, rfl, rfl, h⟩
  · split
    · exact .inl ⟨_, rfl, rfl⟩
    · split
      · exact .inl ⟨_, rfl, rfl⟩
      · cases hidentity : r.kindOf? d.identity with
        | some first => exact .inl ⟨_, rfl, rfl⟩
        | none =>
            cases hkind : r.contains d.kind with
            | true => exact .inl ⟨_, rfl, rfl⟩
            | false => exact .inr ⟨_, _, rfl, rfl, h.register hidentity hkind⟩

theorem Mirrors.acceptAll (h : x.Mirrors r) (ds : List Declaration) :
    (∃ e, acceptAll ds x = .error e ∧ Registry.acceptAll ds r = .error e) ∨
      ∃ y s, acceptAll ds x = .ok y ∧ Registry.acceptAll ds r = .ok s ∧ y.Mirrors s := by
  induction ds generalizing x r with
  | nil => exact .inr ⟨x, r, rfl, rfl, h⟩
  | cons d ds ih =>
      rw [Index.acceptAll, Registry.acceptAll]
      rcases h.accept d with ⟨e, hx, hr⟩ | ⟨y, s, hx, hr, hy⟩
      · exact .inl ⟨e, by rw [hx], by rw [hr]⟩
      · rw [hx, hr]
        exact ih hy

theorem mirrors_build (v : Version) (t : Namespace.Table) (ds : List Declaration) :
    (∃ e, build v t ds = .error e ∧ Registry.build v t ds = .error e) ∨
      ∃ x r, build v t ds = .ok x ∧ Registry.build v t ds = .ok r ∧ x.Mirrors r :=
  (mirrors_empty v t).acceptAll ds

variable {v : Version} {t : Namespace.Table} {ds : List Declaration} {e : Error}

theorem exists_build (h : Registry.build v t ds = .ok r) :
    ∃ x, build v t ds = .ok x ∧ x.Mirrors r := by
  rcases mirrors_build v t ds with ⟨e, -, hr⟩ | ⟨x, s, hx, hr, hmirrors⟩
  · simp [h] at hr
  · obtain rfl := Except.ok.inj (h.symm.trans hr)
    exact ⟨x, hx, hmirrors⟩

theorem build_eq_error_iff : build v t ds = .error e ↔ Registry.build v t ds = .error e := by
  rcases mirrors_build v t ds with ⟨f, hx, hr⟩ | ⟨x, s, hx, hr, -⟩ <;> simp [hx, hr]

end Index

end Registry

end OfficeSchema
