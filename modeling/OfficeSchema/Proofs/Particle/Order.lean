import OfficeSchema.Proofs.Content.Verdict

namespace OfficeSchema

namespace Step

theorem compare_toMember {i j : Nat} (h : i < j) (c : Compositor) :
    (toMember c i).compare (toMember c j) = .lt := by
  have hlt : Ord.compare i j = .lt := Nat.compare_eq_lt.mpr h
  cases c <;> simp [toMember, Compositor.isUnordered, compare, hlt]

end Step

namespace Path

/-- Two paths part at a place, and the first takes the earlier step there. -/
def Forks (p q : Path) : Prop :=
  ∃ (place : Path) (x y : Step), place ++ [x] <+: p ∧ place ++ [y] <+: q ∧ x.compare y = .lt

namespace Forks

variable {p q : Path}

theorem compare_eq (h : Forks p q) : p.compare q = .lt := by
  obtain ⟨place, x, y, ⟨u, rfl⟩, ⟨w, rfl⟩, hxy⟩ := h
  rw [List.append_assoc, List.append_assoc, compare_append]
  simp [compare, hxy]

theorem not_prefix (h : Forks p q) : ¬p <+: q ∧ ¬q <+: p := by
  obtain ⟨place, x, y, hx, hy, hxy⟩ := h
  have hne : x ≠ y := by
    rintro rfl
    rw [Step.compare_self] at hxy
    exact absurd hxy (by decide)
  exact ⟨fun hpq => hne (step_unique (hx.trans hpq) hy),
    fun hqp => hne (step_unique hx (hy.trans hqp))⟩

end Forks

end Path

namespace Particle

mutual

def placed (path : Path) : Particle → List (Leaf × Path)
  | .leaf l => [(l, path)]
  | .group c _ members => placedFrom c path 0 members

def placedFrom (c : Compositor) (path : Path) (i : Nat) : List Particle → List (Leaf × Path)
  | [] => []
  | p :: ps => placed (path ++ [Step.toMember c i]) p ++ placedFrom c path (i + 1) ps

end

theorem map_fst_placedFrom {c : Compositor} {path : Path} {ps : List Particle}
    (h : ∀ p ∈ ps, ∀ path, (p.placed path).map Prod.fst = p.leaves) (i : Nat) :
    (placedFrom c path i ps).map Prod.fst = leavesOf ps := by
  induction ps generalizing i with
  | nil => rfl
  | cons p ps ih =>
      rw [placedFrom, List.map_append, h p (by simp), ih (fun q hq => h q (by simp [hq])), leavesOf]

theorem map_fst_placed (path : Path) (p : Particle) :
    (p.placed path).map Prod.fst = p.leaves := by
  induction p generalizing path with
  | leaf l => rfl
  | group c o members ih => exact map_fst_placedFrom ih 0

def offers (v : Version) (p : Particle) : List (Kind × Path) :=
  ((p.placed []).filter (fun x => x.1.isAvailable v)).map (fun x => (x.1.kind, x.2))

end Particle

namespace Model

variable {v : Version} {c : Compositor} {o : Occurs} {p : Particle}

def offer (s : Slot) : Kind × Path := (s.kind, s.path)

def position? (m : Model) (k : Kind) : Option Nat := m.lookup.findIdx? (fun x => x.1 == k)

theorem map_offer_outlineAll {choice : Option Nat} {alone : Bool} {ps : List Particle}
    (h : ∀ p ∈ ps, ∀ r n, (outline v p r n).slots.map offer =
      ((p.placed r.path).filter (fun x => x.1.isAvailable v)).map (fun x => (x.1.kind, x.2)))
    (i : Nat) (r : Route) (n : Nat) :
    (outlineAll v c o choice alone ps i r n).slots.map offer =
      ((Particle.placedFrom c r.path i ps).filter (fun x => x.1.isAvailable v)).map
        (fun x => (x.1.kind, x.2)) := by
  induction ps generalizing i n with
  | nil => rfl
  | cons p ps ih =>
      rw [outlineAll, slots_append, List.map_append, h p (by simp),
        ih (fun q hq => h q (by simp [hq])), Particle.placedFrom, List.filter_append,
        List.map_append]
      rfl

theorem map_offer_outline (v : Version) (p : Particle) (r : Route) (n : Nat) :
    (outline v p r n).slots.map offer =
      ((p.placed r.path).filter (fun x => x.1.isAvailable v)).map (fun x => (x.1.kind, x.2)) := by
  induction p generalizing r n with
  | leaf l => cases hl : l.isAvailable v <;> simp [outline, Particle.placed, hl, offer, Route.slot]
  | group c o members ih =>
      rw [outline, slots_append, List.nil_append, map_offer_outlineAll ih, Particle.placed]
      rfl

theorem map_fresh {α : Type} (f : Slot → α) (same : α → α → Bool)
    (hf : ∀ s t : Slot, same (f t) (f s) = (t.kind == s.kind)) (known : List Kind)
    (ss : List Slot) :
    (fresh known ss).map f = ((ss.filter (fun s => s.kind ∉ known)).map f).eraseDupsBy same := by
  induction ss generalizing known with
  | nil => rfl
  | cons s ss ih =>
      by_cases hs : s.kind ∈ known
      · simp [fresh, hs, ih]
      · rw [fresh, if_neg hs, List.map_cons, ih, List.filter_cons_of_pos (by simpa using hs),
          List.map_cons, List.eraseDupsBy_cons, List.filter_map, List.filter_filter]
        congr 3
        apply List.filter_congr
        intro t _
        rw [Bool.eq_iff_iff]
        simp [hf, and_comm]

theorem lookup_ofParticle (v : Version) (p : Particle) :
    (ofParticle v p).lookup = (p.offers v).eraseDupsBy (fun a b => a.1 == b.1) := by
  have h := map_fresh offer (fun a b => a.1 == b.1) (fun _ _ => rfl) []
    (outline v p .root 0).slots
  rw [← ofParticle_slots, List.filter_eq_self.mpr (by simp), map_offer_outline] at h
  exact h

theorem kinds_ofParticle_eq (v : Version) (p : Particle) :
    (ofParticle v p).kinds =
      ((p.leaves.filter (fun l => l.isAvailable v)).map Leaf.kind).eraseDups := by
  have h := map_fresh Slot.kind (fun a b => a == b) (fun _ _ => rfl) []
    (outline v p .root 0).slots
  have hkinds : (outline v p .root 0).slots.map Slot.kind = (p.offers v).map Prod.fst := by
    have ho : (outline v p .root 0).slots.map offer = p.offers v := map_offer_outline v p .root 0
    rw [← ho, List.map_map]
    rfl
  rw [← ofParticle_slots, List.filter_eq_self.mpr (by simp), hkinds] at h
  rw [kinds, h, ← Particle.map_fst_placed [] p, List.filter_map, Particle.offers, List.map_map,
    List.map_map]
  rfl

theorem forks_outlineAll {choice : Option Nat} {alone : Bool} {ps : List Particle}
    (h : ∀ p ∈ ps, ∀ r n, (outline v p r n).slots.Pairwise (fun s t => s.path.Forks t.path))
    (i : Nat) (r : Route) (n : Nat) :
    (outlineAll v c o choice alone ps i r n).slots.Pairwise (fun s t => s.path.Forks t.path) := by
  induction ps generalizing i n with
  | nil => exact .nil
  | cons p ps ih =>
      rw [outlineAll, slots_append, List.pairwise_append]
      refine ⟨h p (by simp) _ _, ih (fun q hq => h q (by simp [hq])) _ _, fun s hs t ht => ?_⟩
      obtain ⟨k, q, -, ht⟩ := (mem_outlineAll (f := Model.slots) rfl slots_append).mp ht
      exact ⟨r.path, Step.toMember c i, Step.toMember c (i + 1 + k), slot_below hs, slot_below ht,
        Step.compare_toMember (by omega) c⟩

theorem forks_outline (v : Version) (p : Particle) (r : Route) (n : Nat) :
    (outline v p r n).slots.Pairwise (fun s t => s.path.Forks t.path) := by
  induction p generalizing r n with
  | leaf l => cases hl : l.isAvailable v <;> simp [outline, hl]
  | group c o members ih =>
      rw [outline, slots_append, List.nil_append]
      exact forks_outlineAll ih 0 (r.enter o) _

theorem forks_slots (v : Version) (p : Particle) :
    (ofParticle v p).slots.Pairwise (fun s t => s.path.Forks t.path) := by
  rw [ofParticle_slots]
  exact (forks_outline v p .root 0).sublist (fresh_sublist _ _)

theorem position?_eq (m : Model) (k : Kind) : m.position? k = m.indexOf? k := by
  rw [position?, lookup, List.findIdx?_map]
  rfl

theorem compare_getElem {m : Model} (h : m.slots.Pairwise (fun s t => s.path.Forks t.path))
    {i j : Nat} {s t : Slot} (hi : m.slots[i]? = some s) (hj : m.slots[j]? = some t) :
    s.path.compare t.path = Ord.compare i j := by
  have hpair := List.pairwise_iff_getElem.mp h
  obtain ⟨hil, rfl⟩ := List.getElem?_eq_some_iff.mp hi
  obtain ⟨hjl, rfl⟩ := List.getElem?_eq_some_iff.mp hj
  rcases Nat.lt_trichotomy i j with hlt | rfl | hgt
  · rw [(hpair i j hil hjl hlt).compare_eq, Nat.compare_eq_lt.mpr hlt]
  · rw [Path.compare_self, Nat.compare_eq_eq.mpr rfl]
  · rw [← Path.compare_swap, (hpair j i hjl hil hgt).compare_eq, Nat.compare_eq_gt.mpr hgt]
    rfl

theorem position?_eq_none_iff {m : Model} {k : Kind} :
    m.position? k = none ↔ m.contains k = false := by
  rw [position?_eq, indexOf?, List.findIdx?_eq_none_iff, contains, List.any_eq_false]
  simp

theorem exists_position_iff {m : Model} {k : Kind} :
    (∃ i, m.position? k = some i) ↔ m.contains k = true := by
  rw [← Option.isSome_iff_exists, ← Option.ne_none_iff_isSome, ne_eq, position?_eq_none_iff,
    Bool.not_eq_false]

theorem exists_slot_of_position {m : Model} {k : Kind} {i : Nat} (h : m.position? k = some i) :
    ∃ s, m.slots[i]? = some s ∧ s.kind = k ∧ m.path? k = some s.path := by
  rw [position?_eq, indexOf?] at h
  have hfind : m.slot? k = m.slots[i]? := by
    rw [slot?, List.find?_eq_bind_findIdx?_getElem?, h]
    rfl
  obtain ⟨hlt, hk, -⟩ := List.findIdx?_eq_some_iff_getElem.mp h
  rw [List.getElem?_eq_getElem hlt] at hfind ⊢
  exact ⟨m.slots[i], rfl, by simpa using hk, by rw [path?, hfind]; rfl⟩

theorem path?_of_position {m : Model} {k : Kind} (h : m.position? k = none) :
    m.path? k = none := by
  rw [position?_eq, indexOf?] at h
  rw [path?, slot?, List.find?_eq_bind_findIdx?_getElem?, h]
  rfl

theorem compare_eq (v : Version) (p : Particle) (x y : Kind) :
    (ofParticle v p).compare x y =
      Ord.compare ((ofParticle v p).position? x) ((ofParticle v p).position? y) := by
  rw [Model.compare]
  cases hx : (ofParticle v p).position? x with
  | none =>
      rw [path?_of_position hx]
      cases hy : (ofParticle v p).position? y with
      | none =>
          rw [path?_of_position hy]
          rfl
      | some j =>
          obtain ⟨t, -, -, ht⟩ := exists_slot_of_position hy
          rw [ht]
          rfl
  | some i =>
      obtain ⟨s, hi, -, hs⟩ := exists_slot_of_position hx
      rw [hs]
      cases hy : (ofParticle v p).position? y with
      | none =>
          rw [path?_of_position hy]
          rfl
      | some j =>
          obtain ⟨t, hj, -, ht⟩ := exists_slot_of_position hy
          rw [ht]
          exact compare_getElem (forks_slots v p) hi hj

theorem position?_inj {m : Model} {x y : Kind} (hx : m.contains x = true)
    (h : m.position? x = m.position? y) : x = y := by
  obtain ⟨i, hi⟩ := exists_position_iff.mpr hx
  obtain ⟨s, hs, rfl, -⟩ := exists_slot_of_position hi
  obtain ⟨t, ht, rfl, -⟩ := exists_slot_of_position (h ▸ hi)
  rw [Option.some.inj (hs.symm.trans ht)]

/-- The lookup of a compiled model is the list of its leaves, and the order of kinds is the order
of their positions in it. -/
theorem lookup_compare_ofParticle (v : Version) (p : Particle) :
    (ofParticle v p).lookup = (p.offers v).eraseDupsBy (fun a b => a.1 == b.1) ∧
    (ofParticle v p).lookup.map Prod.fst =
      ((p.leaves.filter (fun l => l.isAvailable v)).map Leaf.kind).eraseDups ∧
    (∀ x y, (ofParticle v p).compare x y =
      Ord.compare ((ofParticle v p).position? x) ((ofParticle v p).position? y)) ∧
    Std.TransCmp (ofParticle v p).compare ∧
    (∀ x y, (ofParticle v p).contains x = false → (ofParticle v p).compare x y =
      if (ofParticle v p).contains y then .lt else .eq) ∧
    ∀ x y, (ofParticle v p).contains x = true → (ofParticle v p).compare x y = .eq → x = y := by
  refine ⟨lookup_ofParticle v p, ?_, compare_eq v p, ?_, fun x y hx => ?_, fun x y hx h => ?_⟩
  · rw [← kinds_ofParticle_eq, lookup, List.map_map]
    rfl
  · refine { eq_swap := ?_, isLE_trans := ?_ }
    · intro x y
      rw [compare_eq, compare_eq]
      exact Std.OrientedCmp.eq_swap
    · intro x y z hxy hyz
      rw [compare_eq] at hxy hyz ⊢
      exact Std.TransCmp.isLE_trans hxy hyz
  · rw [compare_eq, position?_eq_none_iff.mpr hx]
    cases hy : (ofParticle v p).contains y with
    | false =>
        rw [position?_eq_none_iff.mpr hy]
        rfl
    | true =>
        obtain ⟨j, hj⟩ := exists_position_iff.mpr hy
        rw [hj]
        rfl
  · rw [compare_eq] at h
    exact position?_inj hx (Std.LawfulEqCmp.eq_of_compare h)

end Model

end OfficeSchema
