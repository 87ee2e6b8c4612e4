import Mathlib.Data.List.Induction
import OfficeSchema.Proofs.Lists
import OfficeSchema.Proofs.Registry.Indexing

namespace OfficeSchema

namespace Registry

def availableIn (v : Version) (ds : List Declaration) : List Declaration :=
  ds.filter (fun d => d.isAvailable v)

theorem isAvailable_of_mem {v : Version} {ds : List Declaration} {d : Declaration}
    (h : d ∈ availableIn v ds) : d.isAvailable v = true :=
  (List.mem_filter.mp h).2

structure Admissible (t : Namespace.Table) (ds : List Declaration) : Prop where
  named : ∀ d ∈ ds, Name.isValid d.identity.localName = true
  placed : ∀ d ∈ ds, (t.get? d.identity.namespaceId).isSome = true
  identities : (ds.map Declaration.identity).Nodup
  kinds : (ds.map Declaration.kind).Nodup

/-- The fault of a declaration behind others: a fault of its name hides one of its namespace, which
hides an identity that one of the others has, which hides a kind that one of the others has. -/
inductive Offends (t : Namespace.Table) (before : List Declaration) (d : Declaration) :
    Error → Prop
  | name (hname : Name.isValid d.identity.localName = false) :
      Offends t before d (.invalidName d.identity.localName)
  | namespace (hname : Name.isValid d.identity.localName = true)
      (hspace : t.get? d.identity.namespaceId = none) :
      Offends t before d (.naming (.unregistered d.kind.name d.identity.namespaceId))
  | identity (hname : Name.isValid d.identity.localName = true)
      (hspace : (t.get? d.identity.namespaceId).isSome = true) {first : Declaration}
      (hfirst : first ∈ before) (hidentity : first.identity = d.identity) :
      Offends t before d (.duplicateIdentity d.identity first.kind d.kind)
  | kind (hname : Name.isValid d.identity.localName = true)
      (hspace : (t.get? d.identity.namespaceId).isSome = true)
      (hidentity : d.identity ∉ before.map Declaration.identity)
      (hkind : d.kind ∈ before.map Declaration.kind) :
      Offends t before d (.catalog (.kindTwice d.kind))

variable {r s : Registry} {v : Version} {t : Namespace.Table} {d : Declaration}
  {ds before after : List Declaration} {i : Identity} {k : Kind} {e : Error}

theorem lookup?_eq (r : Registry) (k : Kind) :
    r.lookup? k = r.declarations.find? (fun d => d.kind == k) := by
  rw [lookup?, entry?, declarations, List.find?_map]
  rfl

theorem kindOf?_eq (r : Registry) (i : Identity) :
    r.kindOf? i = (r.declarations.find? (fun d => d.identity == i)).map Declaration.kind := by
  rw [kindOf?, declarations, List.find?_map, Option.map_map]
  rfl

theorem kindOf?_eq_none_iff :
    r.kindOf? i = none ↔ i ∉ r.declarations.map Declaration.identity := by
  rw [kindOf?_eq, Option.map_eq_none_iff, find?_key_eq_none_iff]

theorem contains_eq_true_iff :
    r.contains k = true ↔ k ∈ r.declarations.map Declaration.kind := by
  rw [← Bool.not_eq_false, contains_eq_false_iff, Classical.not_not, declarations, List.map_map]
  rfl

theorem kindOf?_eq_some_iff (h : Admissible t r.declarations) :
    r.kindOf? i = some k ↔ ∃ d ∈ r.declarations, d.identity = i ∧ d.kind = k := by
  simp only [kindOf?_eq, Option.map_eq_some_iff, find?_key_eq_some_iff h.identities, and_assoc]

theorem lookup?_eq_some_iff (h : Admissible t r.declarations) :
    r.lookup? k = some d ↔ d ∈ r.declarations ∧ d.kind = k := by
  rw [lookup?_eq, find?_key_eq_some_iff h.kinds]

theorem admissible_concat : Admissible t (ds ++ [d]) ↔ Admissible t ds ∧
    Name.isValid d.identity.localName = true ∧
    (t.get? d.identity.namespaceId).isSome = true ∧
    d.identity ∉ ds.map Declaration.identity ∧ d.kind ∉ ds.map Declaration.kind := by
  constructor
  · rintro ⟨hname, hspace, hid, hkind⟩
    obtain ⟨hid, hids⟩ := nodup_map_concat.mp hid
    obtain ⟨hkind, hkinds⟩ := nodup_map_concat.mp hkind
    exact ⟨⟨fun x hx => hname x (by simp [hx]), fun x hx => hspace x (by simp [hx]), hids, hkinds⟩,
      hname d (by simp), hspace d (by simp), hid, hkind⟩
  · rintro ⟨h, hname, hspace, hid, hkind⟩
    refine ⟨?_, ?_, nodup_map_concat.mpr ⟨hid, h.identities⟩, nodup_map_concat.mpr ⟨hkind, h.kinds⟩⟩
    · rw [List.forall_mem_append, List.forall_mem_singleton]
      exact ⟨h.named, hname⟩
    · rw [List.forall_mem_append, List.forall_mem_singleton]
      exact ⟨h.placed, hspace⟩

theorem accept_unavailable (h : d.isAvailable r.version = false) : r.accept d = .ok r := by
  simp [accept, h]

theorem accept_admissible (hv : d.isAvailable r.version = true)
    (h : Admissible r.namespaces (r.declarations ++ [d])) : r.accept d = .ok (r.register d) := by
  obtain ⟨-, hname, hspace, hid, hkind⟩ := admissible_concat.mp h
  rw [← contains_eq_true_iff, Bool.not_eq_true] at hkind
  rw [← kindOf?_eq_none_iff] at hid
  simp [accept, hv, hname, Option.isSome_iff_ne_none.mp hspace, hid, hkind]

theorem accept_offends (hv : d.isAvailable r.version = true)
    (h : Admissible r.namespaces r.declarations) (hd : Offends r.namespaces r.declarations d e) :
    r.accept d = .error e := by
  cases hd with
  | name hname => simp [accept, hv, hname]
  | «namespace» hname hspace => simp [accept, hv, hname, hspace]
  | @identity hname hspace first hfirst hid =>
      have hkind := (kindOf?_eq_some_iff h).mpr ⟨first, hfirst, hid, rfl⟩
      simp [accept, hv, hname, Option.isSome_iff_ne_none.mp hspace, hkind]
  | kind hname hspace hid hkind =>
      rw [← contains_eq_true_iff] at hkind
      rw [← kindOf?_eq_none_iff] at hid
      simp [accept, hv, hname, Option.isSome_iff_ne_none.mp hspace, hid, hkind]

theorem admissible_nil (t : Namespace.Table) : Admissible t [] := by
  constructor <;> simp

theorem Admissible.sublist (h : Admissible t ds) (hs : before.Sublist ds) :
    Admissible t before where
  named x hx := h.named x (hs.subset hx)
  placed x hx := h.placed x (hs.subset hx)
  identities := h.identities.sublist (hs.map _)
  kinds := h.kinds.sublist (hs.map _)

theorem declarations_register (r : Registry) (d : Declaration) :
    (r.register d).declarations = r.declarations ++ [d] := by
  simp [declarations, register]

theorem acceptAll_append (ds es : List Declaration) (r : Registry) :
    acceptAll (ds ++ es) r = (acceptAll ds r).bind (acceptAll es) := by
  induction ds generalizing r with
  | nil => rfl
  | cons d ds ih =>
      rw [List.cons_append, acceptAll, acceptAll]
      cases r.accept d with
      | error e => rfl
      | ok s => exact ih s

theorem version_accept (h : r.accept d = .ok s) : s.version = r.version := by
  rcases accept_cases h with ⟨-, rfl⟩ | ⟨-, -, -, -, -, rfl⟩ <;> rfl

theorem acceptAll_availableIn (ds : List Declaration) (r : Registry) :
    acceptAll (availableIn r.version ds) r = acceptAll ds r := by
  induction ds generalizing r with
  | nil => rfl
  | cons d ds ih =>
      cases hv : d.isAvailable r.version with
      | false =>
          rw [availableIn, List.filter_cons, if_neg (by simp [hv]), acceptAll,
            accept_unavailable hv]
          exact ih r
      | true =>
          rw [availableIn, List.filter_cons, if_pos hv, acceptAll, acceptAll]
          cases hs : r.accept d with
          | error e => rfl
          | ok s =>
              rw [← version_accept hs]
              exact ih s

theorem acceptAll_admissible (hv : ∀ d ∈ ds, d.isAvailable r.version = true)
    (h : Admissible r.namespaces (r.declarations ++ ds)) :
    acceptAll ds r = .ok { r with entries := r.entries ++ ds.map (.of r.version) } := by
  induction ds generalizing r with
  | nil => simp [acceptAll]
  | cons d ds ih =>
      have hd : Admissible r.namespaces (r.declarations ++ [d]) := h.sublist (by simp)
      have hrest : Admissible (r.register d).namespaces ((r.register d).declarations ++ ds) := by
        rw [declarations_register, List.append_assoc]
        exact h
      rw [acceptAll, accept_admissible (hv d (by simp)) hd]
      dsimp only
      rw [ih (r := r.register d) (fun x hx => hv x (by simp [hx])) hrest, List.map_cons,
        List.append_cons]
      rfl

theorem admissible_or_offends (t : Namespace.Table) (ds : List Declaration) :
    Admissible t ds ∨ ∃ before d after e, ds = before ++ d :: after ∧ Admissible t before ∧
      Offends t before d e := by
  induction ds using List.reverseRecOn with
  | nil => exact .inl (admissible_nil t)
  | append_singleton ds d ih =>
      rcases ih with h | ⟨before, x, after, e, rfl, h, hx⟩
      · have offends {e : Error} (he : Offends t ds d e) : ∃ before x after e,
            ds ++ [d] = before ++ x :: after ∧ Admissible t before ∧ Offends t before x e :=
          ⟨ds, d, [], e, rfl, h, he⟩
        cases hname : Name.isValid d.identity.localName with
        | false => exact .inr (offends (.name hname))
        | true =>
            cases hspace : t.get? d.identity.namespaceId with
            | none => exact .inr (offends (.namespace hname hspace))
            | some entry =>
                have hspace := Option.isSome_of_eq_some hspace
                by_cases hid : d.identity ∈ ds.map Declaration.identity
                · obtain ⟨first, hfirst, hid⟩ := List.mem_map.mp hid
                  exact .inr (offends (.identity hname hspace hfirst hid))
                · by_cases hkind : d.kind ∈ ds.map Declaration.kind
                  · exact .inr (offends (.kind hname hspace hid hkind))
                  · exact .inl (admissible_concat.mpr ⟨h, hname, hspace, hid, hkind⟩)
      · exact .inr ⟨before, x, after ++ [d], e, by simp, h, hx⟩

def ofAdmissible (v : Version) (t : Namespace.Table) (ds : List Declaration) : Registry :=
  ⟨v, t, ds.map (.of v)⟩

theorem declarations_ofAdmissible : (ofAdmissible v t ds).declarations = ds := by
  simp [declarations, ofAdmissible, Registration.of, Function.comp_def]

theorem build_eq (v : Version) (t : Namespace.Table) (ds : List Declaration) :
    build v t ds = acceptAll (availableIn v ds) ⟨v, t, []⟩ :=
  (acceptAll_availableIn ds ⟨v, t, []⟩).symm

theorem build_admissible (h : Admissible t (availableIn v ds)) :
    build v t ds = .ok (ofAdmissible v t (availableIn v ds)) := by
  have hbuild := acceptAll_admissible (r := ⟨v, t, []⟩) (fun d hd => isAvailable_of_mem hd) h
  exact (build_eq v t ds).trans hbuild

theorem build_offends (hds : availableIn v ds = before ++ d :: after) (h : Admissible t before)
    (hd : Offends t before d e) : build v t ds = .error e := by
  have hv : ∀ x ∈ before ++ d :: after, x.isAvailable v = true :=
    fun x hx => isAvailable_of_mem (hds ▸ hx)
  have hbefore := acceptAll_admissible (r := ⟨v, t, []⟩) (fun x hx => hv x (by simp [hx])) h
  have hdeclared : (ofAdmissible v t before).declarations = before := declarations_ofAdmissible
  have hd : (ofAdmissible v t before).accept d = .error e := by
    apply accept_offends (hv d (by simp))
    · exact hdeclared.symm ▸ h
    · exact hdeclared.symm ▸ hd
  rw [build_eq, hds, acceptAll_append, hbefore]
  change acceptAll (d :: after) (ofAdmissible v t before) = _
  rw [acceptAll, hd]

theorem build_eq_ok_iff : build v t ds = .ok r ↔
    Admissible t (availableIn v ds) ∧ r = ofAdmissible v t (availableIn v ds) := by
  constructor
  · intro h
    rcases admissible_or_offends t (availableIn v ds) with ha | ⟨before, d, after, e, hds, ha, hd⟩
    · exact ⟨ha, Except.ok.inj (h.symm.trans (build_admissible ha))⟩
    · exact nomatch h.symm.trans (build_offends hds ha hd)
  · rintro ⟨h, rfl⟩
    exact build_admissible h

theorem build_eq_error_iff : build v t ds = .error e ↔ ∃ before d after,
    availableIn v ds = before ++ d :: after ∧ Admissible t before ∧ Offends t before d e := by
  constructor
  · intro h
    rcases admissible_or_offends t (availableIn v ds) with ha | ⟨before, d, after, f, hds, ha, hd⟩
    · exact nomatch h.symm.trans (build_admissible ha)
    · obtain rfl := Except.error.inj (h.symm.trans (build_offends hds ha hd))
      exact ⟨before, d, after, hds, ha, hd⟩
  · rintro ⟨before, d, after, hds, h, hd⟩
    exact build_offends hds h hd

/-- A registry that holds some declarations and nothing else: both lookups and the creation of
elements say what they declare, and exactly the composite kinds have a content. -/
structure Serves (r : Registry) (v : Version) (t : Namespace.Table) (ds : List Declaration) :
    Prop where
  version : r.version = v
  namespaces : r.namespaces = t
  listed : r.declarations = ds
  declared : ∀ k d, r.lookup? k = some d ↔ d ∈ ds ∧ d.kind = k
  inverse : ∀ i k, r.kindOf? i = some k ↔ (r.lookup? k).map Declaration.identity = some i
  created : ∀ i x, r.create? i = some x ↔ ∃ d ∈ ds, d.identity = i ∧
    x = .ofNode (.typed d.kind d.identity d.capability)
  filled : ∀ k c, r.content? k = some c ↔ ∃ d ∈ ds, d.kind = k ∧ d.capability = .composite ∧
    c = .fresh (d.content.getD .nothing) v

theorem entry?_ofAdmissible (h : Admissible t ds) {x : Registration} :
    entry? (ofAdmissible v t ds) k = some x ↔ ∃ d ∈ ds, d.kind = k ∧ .of v d = x := by
  have hfind : entry? (ofAdmissible v t ds) k = (ds.find? (fun d => d.kind == k)).map (.of v) := by
    rw [ofAdmissible, entry?, List.find?_map]
    rfl
  simp only [hfind, Option.map_eq_some_iff, find?_key_eq_some_iff h.kinds, and_assoc]

theorem content?_of (v : Version) (d : Declaration) (c : Content) :
    (Registration.of v d).content? = some c ↔
      d.capability = .composite ∧ c = .fresh (d.content.getD .nothing) v := by
  cases hd : d.capability <;> simp [Registration.of, hd, eq_comm]

theorem serves_ofAdmissible (h : Admissible t ds) : (ofAdmissible v t ds).Serves v t ds := by
  have hlisted : (ofAdmissible v t ds).declarations = ds := declarations_ofAdmissible
  have hr : Admissible t (ofAdmissible v t ds).declarations := hlisted.symm ▸ h
  have hlookup (k : Kind) (d : Declaration) :
      (ofAdmissible v t ds).lookup? k = some d ↔ d ∈ ds ∧ d.kind = k := by
    rw [lookup?_eq_some_iff hr, hlisted]
  have hkindOf (i : Identity) (k : Kind) :
      (ofAdmissible v t ds).kindOf? i = some k ↔ ∃ d ∈ ds, d.identity = i ∧ d.kind = k := by
    rw [kindOf?_eq_some_iff hr, hlisted]
  refine ⟨rfl, rfl, hlisted, hlookup, fun i k => ?_, fun i x => ?_, fun k c => ?_⟩
  · simp only [hkindOf, Option.map_eq_some_iff, hlookup]
    exact exists_congr fun d => by rw [and_assoc, and_comm (a := d.kind = k)]
  · simp only [create?, instantiate?, Option.bind_eq_some_iff, Option.map_eq_some_iff, hkindOf,
      hlookup]
    constructor
    · rintro ⟨k, ⟨d, hd, hi, hk⟩, d', ⟨hd', hk'⟩, rfl⟩
      obtain rfl := List.inj_on_of_nodup_map h.kinds hd hd' (hk.trans hk'.symm)
      exact ⟨d, hd, hi, rfl⟩
    · rintro ⟨d, hd, hi, rfl⟩
      exact ⟨d.kind, ⟨d, hd, hi, rfl⟩, d, ⟨hd, rfl⟩, rfl⟩
  · simp only [content?, Option.bind_eq_some_iff, entry?_ofAdmissible h]
    constructor
    · rintro ⟨x, ⟨d, hd, hk, rfl⟩, hc⟩
      exact ⟨d, hd, hk, (content?_of v d c).mp hc⟩
    · rintro ⟨d, hd, hk, hc⟩
      exact ⟨.of v d, ⟨d, hd, hk, rfl⟩, (content?_of v d c).mpr hc⟩

/-- A build succeeds exactly on admissible declarations, and then the registry serves them, as do
maps by identity and by kind; it fails with the first fault in their order. Declarations that the
version does not have count for neither. -/
theorem build_serves_or_offends (v : Version) (t : Namespace.Table) (ds : List Declaration) :
    ((∃ r, build v t ds = .ok r) ↔ Admissible t (availableIn v ds)) ∧
    (∀ e, build v t ds = .error e ↔ ∃ before d after,
      availableIn v ds = before ++ d :: after ∧ Admissible t before ∧ Offends t before d e) ∧
    (∀ r, build v t ds = .ok r → r.Serves v t (availableIn v ds) ∧
      ∃ x, Index.build v t ds = .ok x ∧ x.Mirrors r) ∧
    ∀ e, Index.build v t ds = .error e ↔ build v t ds = .error e := by
  refine ⟨⟨?_, fun h => ⟨_, build_admissible h⟩⟩, fun e => build_eq_error_iff, fun r h => ?_,
    fun e => Index.build_eq_error_iff⟩
  · rintro ⟨r, h⟩
    exact (build_eq_ok_iff.mp h).1
  · refine ⟨?_, Index.exists_build h⟩
    obtain ⟨ha, rfl⟩ := build_eq_ok_iff.mp h
    exact serves_ofAdmissible ha

def lateTwin : List Declaration :=
  [.bare ⟨"w:p"⟩ ⟨23, "p"⟩ .text,
    { Declaration.bare ⟨"w:twin"⟩ ⟨23, "p"⟩ .empty with since := .office2010 }]

theorem build_serves_or_offends_late_twin :
    (∃ r, build .office2007 .standard lateTwin = .ok r ∧
      r.create? ⟨23, "p"⟩ = some (.ofNode (.typed ⟨"w:p"⟩ ⟨23, "p"⟩ .text))) ∧
    build .office2010 .standard lateTwin =
      .error (.duplicateIdentity ⟨23, "p"⟩ ⟨"w:p"⟩ ⟨"w:twin"⟩) := by
  obtain ⟨hok, -, hserves, -⟩ := build_serves_or_offends .office2007 .standard lateTwin
  obtain ⟨-, hfails, -, -⟩ := build_serves_or_offends .office2010 .standard lateTwin
  constructor
  · obtain ⟨r, hr⟩ := hok.mpr (by constructor <;> decide +kernel)
    exact ⟨r, hr, ((hserves r hr).1.created _ _).mpr ⟨_, List.mem_singleton_self _, rfl, rfl⟩⟩
  · refine (hfails _).mpr ⟨[_], _, [], rfl, by constructor <;> decide +kernel, ?_⟩
    exact .identity (by decide +kernel) (by decide +kernel) (List.mem_singleton_self _) rfl

end Registry

end OfficeSchema
