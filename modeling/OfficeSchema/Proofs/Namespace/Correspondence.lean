import OfficeSchema.Proofs.Lists
import OfficeSchema.Namespace.Table

/-!
Numbers and addresses of namespaces. Whatever is registered, no number and no address stands twice
in a table, so each leads back to the other; a prefix leads to the namespace that claimed it first,
and names with different prefixes or different local names stand for different identities.
-/

namespace OfficeSchema

theorem Text.splitColon_inj {x y : String} {p : String × String} (hx : splitColon x = some p)
    (hy : splitColon y = some p) : x = y := by
  obtain ⟨a, ha, rfl⟩ := Option.map_eq_some_iff.mp hx
  obtain ⟨b, hb, hab⟩ := Option.map_eq_some_iff.mp hy
  have hparts : b = a := by
    simpa only [Prod.mk.injEq, String.ofList_inj, ← Prod.ext_iff] using hab
  rw [← String.toList_inj, eq_append_of_cutAt ha, eq_append_of_cutAt hb, hparts]

namespace Namespace.Table

structure OneToOne (t : Table) : Prop where
  numbers : (t.entries.map Entry.id).Nodup
  addresses : (t.entries.map Entry.address).Nodup

variable {t u : Table} {e : Entry} {es : List Entry} {id : Nat} {address : String}

/-- What registering a namespace can do: it is there already, or its number and its address are
both new. -/
theorem insert_cases (h : t.insert e = .ok u) :
    (∃ old, t.get? e.id = some old ∧ old.address = e.address ∧ u = t) ∨
      (t.get? e.id = none ∧ t.idOf? e.address = none ∧ u = ⟨t.entries ++ [e]⟩) := by
  unfold insert at h
  split at h
  · next old hold =>
      split at h
      · next haddress =>
          exact .inl ⟨old, hold, by simpa using haddress, (Except.ok.inj h).symm⟩
      · simp at h
  · next hid =>
      split at h
      · simp at h
      · next haddress => exact .inr ⟨hid, haddress, (Except.ok.inj h).symm⟩

theorem oneToOne_empty : empty.OneToOne := ⟨.nil, .nil⟩

theorem OneToOne.insert (h : t.OneToOne) (hu : t.insert e = .ok u) : u.OneToOne := by
  rcases insert_cases hu with ⟨-, -, -, rfl⟩ | ⟨hid, haddress, rfl⟩
  · exact h
  · rw [get?, find?_key_eq_none_iff] at hid
    rw [idOf?, Option.map_eq_none_iff, find?_key_eq_none_iff] at haddress
    exact ⟨nodup_map_concat.mpr ⟨hid, h.numbers⟩, nodup_map_concat.mpr ⟨haddress, h.addresses⟩⟩

theorem OneToOne.insertAll (h : t.OneToOne) (hu : Table.insertAll es t = .ok u) : u.OneToOne := by
  induction es generalizing t with
  | nil =>
      obtain rfl := Except.ok.inj hu
      exact h
  | cons e es ih =>
      rw [Table.insertAll] at hu
      split at hu
      · next hstep => exact ih (h.insert hstep) hu
      · simp at hu

theorem insertAll_standard : Table.insertAll standard.entries .empty = .ok standard := by
  rfl

theorem oneToOne_standard : standard.OneToOne := oneToOne_empty.insertAll insertAll_standard

theorem OneToOne.address?_eq_some_iff (h : t.OneToOne) :
    t.address? id = some address ↔ t.idOf? address = some id := by
  rw [address?, idOf?, Option.map_eq_some_iff, Option.map_eq_some_iff]
  constructor
  · rintro ⟨e, he, rfl⟩
    obtain ⟨hmem, rfl⟩ := (find?_key_eq_some_iff h.numbers).mp he
    exact ⟨e, (find?_key_eq_some_iff h.addresses).mpr ⟨hmem, rfl⟩, rfl⟩
  · rintro ⟨e, he, rfl⟩
    obtain ⟨hmem, rfl⟩ := (find?_key_eq_some_iff h.addresses).mp he
    exact ⟨e, (find?_key_eq_some_iff h.numbers).mpr ⟨hmem, rfl⟩, rfl⟩

theorem isSome_get?_of_idOfPrefix? {label : String} (h : t.idOfPrefix? label = some id) :
    (t.get? id).isSome = true := by
  obtain ⟨e, he, rfl⟩ := Option.map_eq_some_iff.mp h
  rw [get?, List.find?_isSome]
  exact ⟨e, List.mem_of_find?_eq_some he, by simp⟩

theorem OneToOne.idOfPrefix?_inj (h : t.OneToOne) {x y : String} (hx : t.idOfPrefix? x = some id)
    (hy : t.idOfPrefix? y = some id) : x = y := by
  obtain ⟨e, he, rfl⟩ := Option.map_eq_some_iff.mp hx
  obtain ⟨f, hf, hid⟩ := Option.map_eq_some_iff.mp hy
  obtain rfl := List.inj_on_of_nodup_map h.numbers (List.mem_of_find?_eq_some hf)
    (List.mem_of_find?_eq_some he) hid
  have hxe : f.label = x := by simpa using List.find?_some he
  have hyf : f.label = y := by simpa using List.find?_some hf
  exact hxe.symm.trans hyf

theorem identity_eq_ok_iff {name : String} {i : Identity} :
    t.identity name = .ok i ↔ ∃ label, Text.splitColon name = some (label, i.localName) ∧
      t.idOfPrefix? label = some i.namespaceId := by
  unfold identity
  constructor
  · intro h
    split at h
    · simp at h
    · next hname =>
        split at h
        · simp at h
        · next hid =>
            obtain rfl := Except.ok.inj h
            exact ⟨_, hname, hid⟩
  · rintro ⟨label, hname, hid⟩
    rw [hname]
    dsimp only
    rw [hid]

theorem OneToOne.identity_inj (h : t.OneToOne) {x y : String} {i : Identity}
    (hx : t.identity x = .ok i) (hy : t.identity y = .ok i) : x = y := by
  obtain ⟨a, hxa, hia⟩ := identity_eq_ok_iff.mp hx
  obtain ⟨b, hyb, hib⟩ := identity_eq_ok_iff.mp hy
  obtain rfl := h.idOfPrefix?_inj hia hib
  exact Text.splitColon_inj hxa hyb

end Namespace.Table

end OfficeSchema
