import OfficeSchema.Proofs.Namespace.Correspondence
import Std.Data.HashMap

namespace OfficeSchema

namespace Namespace

def Entry.isSame (e f : Entry) : Bool := e.id == f.id && e.address == f.address

theorem Entry.isSame_iff {e f : Entry} :
    e.isSame f = true ↔ e.id = f.id ∧ e.address = f.address := by
  simp [isSame]

theorem Entry.isSame_trans (e f g : Entry) (hef : e.isSame f = true) (hfg : f.isSame g = true) :
    e.isSame g = true := by
  rw [isSame_iff] at *
  exact ⟨hef.1.trans hfg.1, hef.2.trans hfg.2⟩

namespace Table

def attempt (t : Table) (e : Entry) : Table := (t.insert e).toOption.getD t

def attemptAll (t : Table) (es : List Entry) : Table := es.foldl attempt t

/-- The entries of the attempts that are not refused, repeated ones among them. -/
def accepted (t : Table) : List Entry → List Entry
  | [] => []
  | e :: es =>
      if (t.insert e).isOk then e :: accepted (t.attempt e) es else accepted (t.attempt e) es

variable {t : Table} {e : Entry} {es : List Entry} {id : Nat} {address label : String}

theorem attempt_of_ok {u : Table} (h : t.insert e = .ok u) : t.attempt e = u := by
  rw [attempt, h]
  rfl

theorem attempt_of_error {p : Problem} (h : t.insert e = .error p) : t.attempt e = t := by
  rw [attempt, h]
  rfl

theorem attemptAll_append (t : Table) (es fs : List Entry) :
    t.attemptAll (es ++ fs) = (t.attemptAll es).attemptAll fs :=
  List.foldl_append

theorem OneToOne.attempt (h : t.OneToOne) (e : Entry) : (t.attempt e).OneToOne := by
  cases he : t.insert e with
  | ok u =>
      rw [attempt_of_ok he]
      exact h.insert he
  | error p => rwa [attempt_of_error he]

theorem OneToOne.attemptAll (h : t.OneToOne) (es : List Entry) : (t.attemptAll es).OneToOne := by
  induction es generalizing t with
  | nil => exact h
  | cons e es ih => exact ih (h.attempt e)

theorem insert_of_isSame {f : Entry} (h : t.get? f.id = some e) (hef : f.address = e.address) :
    t.insert f = .ok t := by
  rw [insert, h]
  exact if_pos (beq_iff_eq.mpr hef.symm)

theorem OneToOne.insert_eq_error_iff (h : t.OneToOne) (e : Entry) :
    (∃ p, t.insert e = .error p) ↔ (∃ old, t.get? e.id = some old ∧ old.address ≠ e.address) ∨
      ∃ id, t.idOf? e.address = some id ∧ id ≠ e.id := by
  rw [Table.insert]
  cases hold : t.get? e.id with
  | some old =>
      by_cases haddress : old.address = e.address
      · -- then the address stands for that number, and for no other one
        have hid : t.idOf? e.address = some e.id := by
          rw [← h.address?_eq_some_iff, address?, hold, Option.map_some, haddress]
        simp [haddress, hid]
      · simp [haddress]
  | none =>
      cases hid : t.idOf? e.address with
      | none => simp
      | some id =>
          have hne : id ≠ e.id := by
            rintro rfl
            rw [← h.address?_eq_some_iff, address?, hold] at hid
            cases hid
          simp [hne]

theorem entries_attemptAll (h : t.OneToOne) (es : List Entry) :
    (t.attemptAll es).entries = (t.entries ++ t.accepted es).eraseDupsBy Entry.isSame := by
  induction es generalizing t with
  | nil =>
      rw [accepted, List.append_nil, eraseDupsBy_eq_self]
      · rfl
      · have hnumbers := List.pairwise_map.mp h.numbers
        exact hnumbers.imp fun hne => by simp [Entry.isSame, Ne.symm hne]
  | cons e es ih =>
      rw [attemptAll, List.foldl_cons, ← attemptAll, ih (h.attempt e), accepted]
      cases he : t.insert e with
      | error p => 
          rw [attempt_of_error he]
          rfl
      | ok u =>
          rw [attempt_of_ok he]
          rcases insert_cases he with ⟨old, hold, haddress, rfl⟩ | ⟨-, -, rfl⟩
          · obtain ⟨hmem, hid⟩ := (find?_key_eq_some_iff h.numbers).mp hold
            exact (eraseDupsBy_append_cons Entry.isSame_trans
              ⟨old, hmem, Entry.isSame_iff.mpr ⟨hid.symm, haddress.symm⟩⟩).symm
          · simp [Except.isOk, Except.toBool]

theorem attempt_eq_self (h : (∃ p, t.insert e = .error p) ∨
    ∃ old, t.get? e.id = some old ∧ old.address = e.address) : t.attempt e = t := by
  rcases h with ⟨p, hp⟩ | ⟨old, hold, haddress⟩
  · exact attempt_of_error hp
  · exact attempt_of_ok (insert_of_isSame hold haddress.symm)

theorem OneToOne.idOf?_eq_some_iff (h : t.OneToOne) :
    t.idOf? address = some id ↔ ∃ e, t.get? id = some e ∧ e.address = address := by
  rw [← h.address?_eq_some_iff, address?, Option.map_eq_some_iff]

theorem idOfPrefix?_eq_some_iff : t.idOfPrefix? label = some id ↔ ∃ before e after,
    t.entries = before ++ e :: after ∧ (∀ f ∈ before, f.label ≠ label) ∧
      e.label = label ∧ e.id = id := by
  simp only [idOfPrefix?, Option.map_eq_some_iff, List.find?_eq_some_iff_append]
  constructor
  · rintro ⟨e, ⟨hlabel, before, after, heq, hbefore⟩, hid⟩
    exact ⟨before, e, after, heq, fun f hf => by simpa using hbefore f hf, by simpa using hlabel,
      hid⟩
  · rintro ⟨before, e, after, heq, hbefore, hlabel, hid⟩
    exact ⟨e, ⟨by simpa using hlabel, before, after, heq, fun f hf => by simpa using hbefore f hf⟩,
      hid⟩

theorem idOfPrefix?_eq_none_iff :
    t.idOfPrefix? label = none ↔ ∀ e ∈ t.entries, e.label ≠ label := by
  simp [idOfPrefix?]

theorem get?_concat (t : Table) (e : Entry) (id : Nat) :
    Table.get? ⟨t.entries ++ [e]⟩ id = (t.get? id).or (if e.id = id then some e else none) := by
  simp [get?, List.find?_append, List.find?_singleton]

theorem idOf?_concat (t : Table) (e : Entry) (address : String) :
    Table.idOf? ⟨t.entries ++ [e]⟩ address =
      (t.idOf? address).or (if e.address = address then some e.id else none) := by
  by_cases h : e.address = address <;> simp [idOf?, List.find?_append, h]

theorem idOfPrefix?_concat (t : Table) (e : Entry) (label : String) :
    Table.idOfPrefix? ⟨t.entries ++ [e]⟩ label =
      (t.idOfPrefix? label).or (if e.label = label then some e.id else none) := by
  by_cases h : e.label = label <;> simp [idOfPrefix?, List.find?_append, h]

end Table

/-- Registrations by key: the numbers in order, the entries by number, and the numbers that
addresses and prefixes stand for. -/
structure Index where
  order : List Nat
  entries : Std.HashMap Nat Entry
  numbers : Std.HashMap String Nat
  labels : Std.HashMap String Nat

namespace Index

def empty : Index := ⟨[], ∅, ∅, ∅⟩

def insert (x : Index) (e : Entry) : Except Problem Index :=
  match x.entries[e.id]? with
  | some old =>
      if old.address == e.address then .ok x else .error (.numberTaken e.id old.address)
  | none =>
      match x.numbers[e.address]? with
      | some id => .error (.addressTaken e.address id)
      | none => .ok ⟨x.order ++ [e.id], x.entries.insert e.id e, x.numbers.insert e.address e.id,
          x.labels.insertIfNew e.label e.id⟩

def attempt (x : Index) (e : Entry) : Index := (x.insert e).toOption.getD x

def attemptAll (x : Index) (es : List Entry) : Index := es.foldl attempt x

def list (x : Index) : List Entry := x.order.filterMap (fun id => x.entries[id]?)

structure Mirrors (x : Index) (t : Table) : Prop where
  present : ∀ id ∈ x.order, (t.get? id).isSome = true
  list : x.list = t.entries
  entry : ∀ id, x.entries[id]? = t.get? id
  number : ∀ address, x.numbers[address]? = t.idOf? address
  label : ∀ label, x.labels[label]? = t.idOfPrefix? label

variable {x : Index} {t : Table}

theorem mirrors_empty : empty.Mirrors .empty where
  present := by simp [empty]
  list := rfl
  entry := by simp [empty, Table.get?, Table.empty]
  number := by simp [empty, Table.idOf?, Table.empty]
  label := by simp [empty, Table.idOfPrefix?, Table.empty]

theorem Mirrors.grow (h : x.Mirrors t) {e : Entry} (hid : t.get? e.id = none)
    (haddress : t.idOf? e.address = none) :
    Mirrors ⟨x.order ++ [e.id], x.entries.insert e.id e, x.numbers.insert e.address e.id,
      x.labels.insertIfNew e.label e.id⟩ ⟨t.entries ++ [e]⟩ where
  present id hmem := by
    rw [Table.get?_concat, Option.isSome_or, Bool.or_eq_true]
    rcases List.mem_append.mp hmem with hmem | hmem
    · exact .inl (h.present id hmem)
    · simp [List.mem_singleton.mp hmem]
  list := by
    have hold : x.order.filterMap (fun id => (x.entries.insert e.id e)[id]?) = t.entries := by
      rw [← h.list, Index.list]
      apply List.filterMap_congr
      intro id hmem
      have hne : e.id ≠ id := by
        rintro rfl
        simpa [hid] using h.present _ hmem
      simp [Std.HashMap.getElem?_insert, hne]
    rw [Index.list, List.filterMap_append, hold]
    simp
  entry id := by
    rw [Std.HashMap.getElem?_insert, h.entry, Table.get?_concat]
    by_cases hne : e.id = id
    · simp [← hne, hid]
    · simp [hne]
  number address := by
    rw [Std.HashMap.getElem?_insert, h.number, Table.idOf?_concat]
    by_cases hne : e.address = address
    · simp [← hne, haddress]
    · simp [hne]
  label label := by
    -- a prefix that is known is found before the new entry
    have hknown : e.label ∈ x.labels ↔ (t.idOfPrefix? e.label).isSome = true := by
      rw [Std.HashMap.mem_iff_isSome_getElem?, h.label]
    rw [Std.HashMap.getElem?_insertIfNew, h.label, Table.idOfPrefix?_concat]
    by_cases hne : e.label = label
    · subst hne
      cases hlabel : t.idOfPrefix? e.label <;> simp [hknown, hlabel]
    · simp [hne]

theorem Mirrors.insert (h : x.Mirrors t) (e : Entry) :
    (∃ p, x.insert e = .error p ∧ t.insert e = .error p) ∨
      ∃ y u, x.insert e = .ok y ∧ t.insert e = .ok u ∧ y.Mirrors u := by
  rw [Index.insert, Table.insert, h.entry, h.number]
  cases hid : t.get? e.id with
  | some old =>
      by_cases haddress : old.address = e.address
      · exact .inr ⟨x, t, by simp [haddress], by simp [haddress], h⟩
      · exact .inl ⟨.numberTaken e.id old.address, by simp [haddress], by simp [haddress]⟩
  | none =>
      cases haddress : t.idOf? e.address with
      | some id => exact .inl ⟨_, rfl, rfl⟩
      | none => exact .inr ⟨_, _, rfl, rfl, h.grow hid haddress⟩

theorem Mirrors.insert_eq_error_iff (h : x.Mirrors t) (e : Entry) (p : Problem) :
    x.insert e = .error p ↔ t.insert e = .error p := by
  rcases h.insert e with ⟨q, hx, ht⟩ | ⟨y, u, hx, ht, -⟩ <;> simp [hx, ht]

theorem Mirrors.attempt (h : x.Mirrors t) (e : Entry) : (x.attempt e).Mirrors (t.attempt e) := by
  rw [Index.attempt, Table.attempt]
  rcases h.insert e with ⟨p, hx, ht⟩ | ⟨y, u, hx, ht, hy⟩
  · rwa [hx, ht]
  · rwa [hx, ht]

theorem Mirrors.attemptAll (h : x.Mirrors t) (es : List Entry) :
    (x.attemptAll es).Mirrors (t.attemptAll es) := by
  induction es generalizing x t with
  | nil => exact h
  | cons e es ih => exact ih (h.attempt e)

end Index

/-- What a table is after any attempts to register namespaces, from no namespaces or from the
standard ones on. Numbers and addresses lead to each other, a prefix leads to the earliest entry
that has it, the entries are the accepted ones without repetition, and an attempt fails exactly if
the number or the address is bound to something else. -/
theorem Table.after_attempts {t₀ : Table} (h₀ : t₀ = .empty ∨ t₀ = .standard) (es : List Entry) :
    let t := t₀.attemptAll es
    let x := Index.empty.attemptAll (t₀.entries ++ es)
    (∀ address id, t.idOf? address = some id ↔ ∃ e, t.get? id = some e ∧ e.address = address) ∧
    (∀ label id, t.idOfPrefix? label = some id ↔ ∃ before e after,
      t.entries = before ++ e :: after ∧ (∀ f ∈ before, f.label ≠ label) ∧
        e.label = label ∧ e.id = id) ∧
    (∀ label, t.idOfPrefix? label = none ↔ ∀ e ∈ t.entries, e.label ≠ label) ∧
    t.entries = (t₀.entries ++ t₀.accepted es).eraseDupsBy Entry.isSame ∧
    (∀ e, (∃ p, t.insert e = .error p) ∨ (∃ old, t.get? e.id = some old ∧
      old.address = e.address) → t.attempt e = t) ∧
    (∀ e, (∃ p, t.insert e = .error p) ↔
      (∃ old, t.get? e.id = some old ∧ old.address ≠ e.address) ∨
        ∃ id, t.idOf? e.address = some id ∧ id ≠ e.id) ∧
    x.Mirrors t ∧ ∀ e p, x.insert e = .error p ↔ t.insert e = .error p := by
  have hstart : t₀.OneToOne ∧ Table.empty.attemptAll t₀.entries = t₀ := by
    rcases h₀ with rfl | rfl
    · exact ⟨oneToOne_empty, rfl⟩
    · exact ⟨oneToOne_standard, rfl⟩
  have ht : (t₀.attemptAll es).OneToOne := hstart.1.attemptAll es
  have hmaps : (Index.empty.attemptAll (t₀.entries ++ es)).Mirrors (t₀.attemptAll es) := by
    have hall := Index.mirrors_empty.attemptAll (t₀.entries ++ es)
    rwa [attemptAll_append, hstart.2] at hall
  exact ⟨fun _ _ => ht.idOf?_eq_some_iff, fun _ _ => idOfPrefix?_eq_some_iff,
    fun _ => idOfPrefix?_eq_none_iff, entries_attemptAll hstart.1 es, fun _ => attempt_eq_self,
    ht.insert_eq_error_iff, hmaps, hmaps.insert_eq_error_iff⟩

/-- Of five attempts the second and the third are refused, and the first and the last repeat what
is known under another prefix. -/
theorem Table.after_attempts_crowded :
    let t := standard.attemptAll [⟨5, "compat", compatibilityAddress⟩, ⟨5, "v", "urn:v"⟩,
      ⟨80, "v", xmlAddress⟩, ⟨80, "mc", "urn:v"⟩, ⟨80, "v", "urn:v"⟩]
    t.entries = standard.entries ++ [⟨80, "mc", "urn:v"⟩] ∧ t.idOf? "urn:v" = some 80 ∧
      t.idOfPrefix? "mc" = some 5 ∧ t.idOfPrefix? "v" = none ∧
      (∃ p, t.insert ⟨81, "v", "urn:v"⟩ = .error p) ∧
      t.attempt ⟨80, "v", "urn:v"⟩ = t := by
  intro t
  obtain ⟨hids, hlabels, hnone, hentries, hsame, hfails, -, -⟩ := after_attempts (.inr rfl)
    [⟨5, "compat", compatibilityAddress⟩, ⟨5, "v", "urn:v"⟩, ⟨80, "v", xmlAddress⟩,
      ⟨80, "mc", "urn:v"⟩, ⟨80, "v", "urn:v"⟩]
  have hlist : t.entries = standard.entries ++ [⟨80, "mc", "urn:v"⟩] :=
    hentries.trans (by decide +kernel)
  have hget : t.get? 80 = some ⟨80, "mc", "urn:v"⟩ := by decide +kernel
  have hid : t.idOf? "urn:v" = some 80 := (hids _ _).mpr ⟨_, hget, rfl⟩
  have hcut : standard.entries ++ [⟨80, "mc", "urn:v"⟩] = standard.entries.take 2 ++
      ⟨5, "mc", compatibilityAddress⟩ :: (standard.entries.drop 3 ++ [⟨80, "mc", "urn:v"⟩]) := rfl
  refine ⟨hlist, hid, (hlabels _ _).mpr ⟨_, _, _, hlist.trans hcut, by decide, rfl, rfl⟩,
    (hnone _).mpr ?_, (hfails _).mpr (.inr ⟨80, hid, by decide⟩), hsame _ (.inr ⟨_, hget, rfl⟩)⟩
  rw [hlist]
  decide

end Namespace

end OfficeSchema
