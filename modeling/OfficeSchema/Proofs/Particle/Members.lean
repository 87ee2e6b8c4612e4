import OfficeSchema.Particle.Basic

namespace OfficeSchema.Particle

@[elab_as_elim, induction_eliminator]
theorem induct {motive : Particle → Prop} (leaf : ∀ l, motive (.leaf l))
    (group : ∀ c o members, (∀ m ∈ members, motive m) → motive (.group c o members))
    (p : Particle) : motive p :=
  Particle.rec (motive_1 := motive) (motive_2 := fun ps => ∀ p ∈ ps, motive p) leaf group
    (fun _ h => nomatch h)
    (fun _ _ hp hps => fun q hq => by
      cases hq with
      | head => exact hp
      | tail _ hq => exact hps q hq) p

mutual

def Everywhere (P : Particle → Prop) : Particle → Prop
  | .leaf l => P (.leaf l)
  | .group c o members => P (.group c o members) ∧ EverywhereIn P members

def EverywhereIn (P : Particle → Prop) : List Particle → Prop
  | [] => True
  | p :: ps => Everywhere P p ∧ EverywhereIn P ps

end

variable {P Q : Particle → Prop} {p : Particle} {c : Compositor} {o : Occurs}
  {members : List Particle}

theorem everywhereIn_iff {ps : List Particle} : EverywhereIn P ps ↔ ∀ p ∈ ps, p.Everywhere P := by
  induction ps with
  | nil => simp [EverywhereIn]
  | cons p ps ih => simp [EverywhereIn, ih]

theorem everywhere_group :
    (group c o members).Everywhere P ↔ P (.group c o members) ∧ ∀ m ∈ members, m.Everywhere P := by
  rw [Everywhere, everywhereIn_iff]

mutual

def decidableEverywhere [DecidablePred P] : (p : Particle) → Decidable (p.Everywhere P)
  | .leaf l => inferInstanceAs (Decidable (P (.leaf l)))
  | .group c o members =>
      have := decidableEverywhereIn members
      inferInstanceAs (Decidable (P (.group c o members) ∧ EverywhereIn P members))

def decidableEverywhereIn [DecidablePred P] : (ps : List Particle) → Decidable (EverywhereIn P ps)
  | [] => .isTrue trivial
  | p :: ps =>
      have := decidableEverywhere p
      have := decidableEverywhereIn ps
      inferInstanceAs (Decidable (p.Everywhere P ∧ EverywhereIn P ps))

end

instance [DecidablePred P] : Decidable (p.Everywhere P) := decidableEverywhere p

theorem Everywhere.self (h : p.Everywhere P) : P p := by
  cases p with
  | leaf l => exact h
  | group c o members => exact h.1

def kinds (p : Particle) : List Kind := p.leaves.map Leaf.kind

def kindsOf (ps : List Particle) : List Kind := (leavesOf ps).map Leaf.kind

theorem kinds_leaf (l : Leaf) : (leaf l).kinds = [l.kind] := rfl

theorem kinds_group (c : Compositor) (o : Occurs) (members : List Particle) :
    (group c o members).kinds = kindsOf members := rfl

theorem kindsOf_cons (p : Particle) (ps : List Particle) :
    kindsOf (p :: ps) = p.kinds ++ kindsOf ps := by
  simp [kindsOf, kinds, leavesOf]

theorem kindsOf_singleton (p : Particle) : kindsOf [p] = p.kinds := by
  simp [kindsOf, kinds, leavesOf]

theorem kindsOf_append (ps qs : List Particle) : kindsOf (ps ++ qs) = kindsOf ps ++ kindsOf qs := by
  induction ps with
  | nil => rfl
  | cons p ps ih => simp only [List.cons_append, kindsOf_cons, ih, List.append_assoc]

theorem mem_kindsOf {k : Kind} {ps : List Particle} : k ∈ kindsOf ps ↔ ∃ p ∈ ps, k ∈ p.kinds := by
  induction ps with
  | nil => simp [kindsOf, leavesOf]
  | cons p ps ih => simp [kindsOf_cons, ih]

def trim (v : Version) : Particle → Particle
  | .leaf l => .leaf l
  | .group c o members => .group c o (restrictAll v members)

theorem restrict_eq (v : Version) (p : Particle) :
    p.restrict v = if p.isOffered v then [p.trim v] else [] := by
  cases p with
  | leaf l => rfl
  | group c o members => rfl

theorem restrictAll_cons (v : Version) (p : Particle) (ps : List Particle) :
    restrictAll v (p :: ps) = p.restrict v ++ restrictAll v ps := rfl

theorem restrictAll_eq (v : Version) (ps : List Particle) :
    restrictAll v ps = (ps.filter (isOffered v)).map (trim v) := by
  induction ps with
  | nil => rfl
  | cons p ps ih =>
      rw [restrictAll_cons, restrict_eq, ih]
      cases hp : p.isOffered v <;> simp [hp]

theorem mem_restrictAll {v : Version} {q : Particle} {ps : List Particle} :
    q ∈ restrictAll v ps ↔ ∃ p ∈ ps, p.isOffered v ∧ p.trim v = q := by
  simp [restrictAll_eq, and_assoc]

theorem length_restrictAll (v : Version) (ps : List Particle) :
    (restrictAll v ps).length = ps.countP (isOffered v) := by
  simp [restrictAll_eq, List.countP_eq_length_filter]

def offeredKinds (v : Version) (p : Particle) : List Kind := kindsOf (p.restrict v)

theorem offeredKinds_of_offered {v : Version} {p : Particle} (h : p.isOffered v = true) :
    p.offeredKinds v = (p.trim v).kinds := by
  rw [offeredKinds, restrict_eq, if_pos h, kindsOf_singleton]

theorem offeredKinds_group (v : Version) (c : Compositor) (o : Occurs) (members : List Particle) :
    (group c o members).offeredKinds v = kindsOf (restrictAll v members) := by
  rw [offeredKinds, restrict, kindsOf_singleton, kinds_group]

theorem kindsOf_restrictAll (v : Version) (ps : List Particle) :
    kindsOf (restrictAll v ps) = ps.flatMap (offeredKinds v) := by
  induction ps with
  | nil => rfl
  | cons p ps ih =>
      rw [restrictAll_cons, kindsOf_append, ih, List.flatMap_cons, offeredKinds]

theorem isOffered_of_mem_offeredKinds {v : Version} {p : Particle} {k : Kind}
    (h : k ∈ p.offeredKinds v) : p.isOffered v = true := by
  rw [offeredKinds, restrict_eq] at h
  split at h
  · assumption
  · simp [kindsOf, leavesOf] at h

theorem mem_kindsOf_restrictAll {v : Version} {ps : List Particle} {k : Kind} :
    k ∈ kindsOf (restrictAll v ps) ↔ ∃ (i : Nat) (p : Particle), ps[i]? = some p ∧
      k ∈ p.offeredKinds v := by
  rw [kindsOf_restrictAll, List.mem_flatMap]
  constructor
  · rintro ⟨p, hp, hk⟩
    obtain ⟨i, hi⟩ := List.mem_iff_getElem?.mp hp
    exact ⟨i, p, hi, hk⟩
  · rintro ⟨i, p, hi, hk⟩
    exact ⟨p, List.mem_of_getElem? hi, hk⟩

end OfficeSchema.Particle
