import OfficeSchema.Particle.Path

namespace OfficeSchema

theorem isLE_or_isLE {α : Type} {cmp : α → α → Ordering} [Std.OrientedCmp cmp] (a b : α) :
    ((cmp a b).isLE || (cmp b a).isLE) = true := by
  have hswap : cmp b a = (cmp a b).swap := Std.OrientedCmp.eq_swap
  rw [hswap]
  cases cmp a b <;> rfl

namespace Step

instance : Std.TransCmp Step.compare :=
  inferInstanceAs (Std.TransCmp (compareLex (compareOn Step.position) (compareOn Step.alternative)))

instance : Std.LawfulEqCmp Step.compare where
  eq_of_compare {a b} h := by
    obtain ⟨hposition, halternative⟩ := Ordering.then_eq_eq.mp h
    cases a
    cases b
    rw [Step.mk.injEq]
    exact ⟨Nat.compare_eq_eq.mp hposition, Nat.compare_eq_eq.mp halternative⟩

theorem compare_self (a : Step) : a.compare a = .eq := Std.ReflCmp.compare_self

end Step

namespace Path

theorem compare_eq_compareLex : Path.compare = List.compareLex Step.compare := by
  funext p q
  induction p generalizing q with
  | nil => cases q <;> rfl
  | cons a p ih =>
      cases q with
      | nil => rfl
      | cons b q =>
          rw [compare, List.compareLex_cons_cons, ih]

instance : Std.TransCmp Path.compare :=
  Path.compare_eq_compareLex ▸ inferInstanceAs (Std.TransCmp (List.compareLex Step.compare))

instance : Std.LawfulEqCmp Path.compare :=
  Path.compare_eq_compareLex ▸ inferInstanceAs (Std.LawfulEqCmp (List.compareLex Step.compare))

theorem compare_self (p : Path) : p.compare p = .eq := Std.ReflCmp.compare_self

theorem compare_swap (p q : Path) : (p.compare q).swap = q.compare p := Std.OrientedCmp.eq_swap.symm

theorem compare_append (place p q : Path) : compare (place ++ p) (place ++ q) = compare p q := by
  induction place with
  | nil => rfl
  | cons a place ih => simp [compare, Step.compare_self, ih]

variable {p q place : Path} {n : Nat}

structure Common (p q place : Path) : Prop where
  left : place <+: p
  right : place <+: q
  longest : ∀ u, u <+: p → u <+: q → u <+: place

theorem shared_append (place p q : Path) :
    shared (place ++ p) (place ++ q) = place.length + shared p q := by
  induction place with
  | nil => simp
  | cons a place ih => simp [shared, ih, Nat.add_right_comm]

theorem sharesPrefix_iff : p.sharesPrefix q n = true ↔
    n ≤ p.length ∧ n ≤ q.length ∧ p.take n = q.take n := by
  simp [sharesPrefix, and_assoc]

theorem sharesPrefix_eq (p q : Path) (n : Nat) : p.sharesPrefix q n = decide (n ≤ shared p q) := by
  induction p generalizing q n with
  | nil => cases n <;> simp [sharesPrefix, shared]
  | cons a p ih =>
      cases q with
      | nil => cases n <;> simp [sharesPrefix, shared]
      | cons b q =>
          cases n with
          | zero => simp [sharesPrefix]
          | succ n =>
              have hpq := ih q n
              simp only [sharesPrefix] at hpq
              by_cases hab : a = b
              · simp [sharesPrefix, shared, hab, hpq]
              · simp [sharesPrefix, shared, hab]

theorem sharesPrefix_length (p place : Path) :
    p.sharesPrefix place place.length = true ↔ place <+: p := by
  rw [sharesPrefix_iff, List.take_length, List.prefix_iff_eq_take, eq_comm]
  exact ⟨fun h => h.2.2, fun h => ⟨(List.prefix_iff_eq_take.mpr h).length_le, Nat.le_refl _, h⟩⟩

theorem sharesPrefix_mono {m : Nat} (h : p.sharesPrefix q n = true) (hm : m ≤ n) :
    p.sharesPrefix q m = true := by
  rw [sharesPrefix_eq, decide_eq_true_eq] at h ⊢
  exact Nat.le_trans hm h

theorem sharesPrefix_of_isPrefix (h : place <+: q) (hn : n ≤ place.length) :
    p.sharesPrefix q n = p.sharesPrefix place n := by
  obtain ⟨rest, rfl⟩ := h
  have hlen : n ≤ (place ++ rest).length := Nat.le_trans hn (by simp)
  simp only [sharesPrefix, List.take_append_of_le_length hn, hn, hlen]

theorem le_shared_iff : n ≤ shared p q ↔ n ≤ p.length ∧ n ≤ q.length ∧ p.take n = q.take n := by
  rw [← sharesPrefix_iff, sharesPrefix_eq, decide_eq_true_eq]

theorem shared_comm (p q : Path) : shared p q = shared q p := by
  have hle (p q : Path) : shared p q ≤ shared q p := by
    obtain ⟨hp, hq, htake⟩ := le_shared_iff.mp (Nat.le_refl (shared p q))
    exact le_shared_iff.mpr ⟨hq, hp, htake.symm⟩
  exact Nat.le_antisymm (hle p q) (hle q p)

theorem common_take_shared (p q : Path) : Common p q (p.take (shared p q)) := by
  obtain ⟨-, -, htake⟩ := le_shared_iff.mp (Nat.le_refl (shared p q))
  refine ⟨List.take_prefix _ p, htake ▸ List.take_prefix _ q, fun u hp hq => ?_⟩
  have hu : u.length ≤ shared p q := le_shared_iff.mpr ⟨hp.length_le, hq.length_le,
    (List.prefix_iff_eq_take.mp hp).symm.trans (List.prefix_iff_eq_take.mp hq)⟩
  rw [List.prefix_iff_eq_take.mp hp]
  exact List.take_prefix_take_left hu

theorem Common.length_eq (h : Common p q place) : place.length = shared p q := by
  have htake := common_take_shared p q
  have hle := (h.longest _ htake.left htake.right).length_le
  have hge := (htake.longest _ h.left h.right).length_le
  have hshared := (le_shared_iff.mp (Nat.le_refl (shared p q))).1
  rw [List.length_take, Nat.min_eq_left hshared] at hle hge
  exact Nat.le_antisymm hge hle

theorem divergence?_cons (a : Step) (p q : Path) :
    divergence? (a :: p) (a :: q) = (divergence? p q).map (· + 1) := by
  simp only [divergence?, shared, if_true, List.length_cons, Nat.add_right_cancel_iff]
  split <;> rfl

theorem divergence?_eq_none_iff : divergence? p q = none ↔ p = q := by
  constructor
  · intro h
    obtain ⟨hp, hq⟩ : shared p q = p.length ∧ shared p q = q.length := by
      simpa [divergence?] using h
    obtain ⟨-, -, htake⟩ := le_shared_iff.mp (Nat.le_refl (shared p q))
    rwa [hp, List.take_length, ← hp, hq, List.take_length] at htake
  · rintro rfl
    exact divergence?_self p

theorem divergence?_eq_some_iff : divergence? p q = some n ↔ p ≠ q ∧ shared p q = n := by
  rw [ne_eq, ← divergence?_eq_none_iff]
  simp only [divergence?]
  split <;> simp

theorem divergence?_eq_some_iff_common : divergence? p q = some n ↔
    p ≠ q ∧ ∃ place, Common p q place ∧ place.length = n := by
  rw [divergence?_eq_some_iff]
  refine and_congr_right fun _ => ⟨?_, ?_⟩
  · rintro rfl
    exact ⟨_, common_take_shared p q, (common_take_shared p q).length_eq⟩
  · rintro ⟨place, hplace, rfl⟩
    exact hplace.length_eq.symm

theorem divergence?_comm (p q : Path) : divergence? p q = divergence? q p := by
  simp only [divergence?, shared_comm p q, and_comm]

theorem sharesPrefix_iff_divergence? : p.sharesPrefix q n = true ↔ n ≤ p.length ∧ n ≤ q.length ∧
    (divergence? p q = none ∨ ∃ m, divergence? p q = some m ∧ n ≤ m) := by
  rw [sharesPrefix_eq, decide_eq_true_eq]
  cases h : divergence? p q with
  | none =>
      obtain rfl := divergence?_eq_none_iff.mp h
      simp [shared_self]
  | some m =>
      obtain ⟨-, rfl⟩ := divergence?_eq_some_iff.mp h
      obtain ⟨hp, hq, -⟩ := le_shared_iff.mp (Nat.le_refl (shared p q))
      simp only [reduceCtorEq, Option.some.injEq, exists_eq_left', false_or]
      exact ⟨fun hn => ⟨Nat.le_trans hn hp, Nat.le_trans hn hq, hn⟩, fun hn => hn.2.2⟩

theorem compare_eq_at_shared (p q : Path) : p.compare q =
    match p[shared p q]?, q[shared p q]? with
    | some a, some b => a.compare b
    | _, _ => Ord.compare p.length q.length := by
  induction p generalizing q with
  | nil =>
      cases q with
      | nil => rfl
      | cons b q => exact (Nat.compare_eq_lt.mpr (Nat.succ_pos q.length)).symm
  | cons a p ih =>
      cases q with
      | nil => exact (Nat.compare_eq_gt.mpr (Nat.succ_pos p.length)).symm
      | cons b q =>
          rw [compare, shared]
          by_cases hab : a = b
          · subst hab
            have hlength : Ord.compare (p.length + 1) (q.length + 1) =
                Ord.compare p.length q.length := by simp [Nat.compare_eq_ite_lt]
            rw [if_pos rfl, Step.compare_self, Ordering.eq_then, ih, List.length_cons,
              List.length_cons, hlength]
            rfl
          · -- they part here, and steps that differ do not compare as equal
            rw [if_neg hab]
            cases hstep : a.compare b with
            | eq => exact absurd (Std.LawfulEqCmp.eq_of_compare hstep) hab
            | lt => exact hstep.symm
            | gt => exact hstep.symm

/-- The order of paths is total, and the place where two paths part decides it. Their common
beginning ends there, and it holds the prefixes that they share. -/
theorem compare_by_divergence (p q r : Path) :
    (p.compare q = .eq ↔ p = q) ∧
    ((p.compare q).isLE → (q.compare p).isLE → p = q) ∧
    ((p.compare q).isLE → (q.compare r).isLE → (p.compare r).isLE) ∧
    ((p.compare q).isLE ∨ (q.compare p).isLE) ∧
    divergence? p q = divergence? q p ∧
    (divergence? p q = none ↔ p = q) ∧
    (∀ n, divergence? p q = some n ↔ p ≠ q ∧ ∃ place, Common p q place ∧ place.length = n) ∧
    (∀ n a b, divergence? p q = some n → p[n]? = some a → q[n]? = some b → p.compare q =
      (Ord.compare a.position b.position).then (Ord.compare a.alternative b.alternative)) ∧
    (∀ n, divergence? p q = some n → p[n]? = none ∨ q[n]? = none →
      p.compare q = Ord.compare p.length q.length) ∧
    ∀ n, p.sharesPrefix q n ↔ n ≤ p.length ∧ n ≤ q.length ∧
      (divergence? p q = none ∨ ∃ m, divergence? p q = some m ∧ n ≤ m) := by
  refine ⟨Std.LawfulEqCmp.compare_eq_iff_eq, fun hpq hqp => ?_, Std.TransCmp.isLE_trans, ?_,
    divergence?_comm p q, divergence?_eq_none_iff, fun _ => divergence?_eq_some_iff_common,
    fun n a b h ha hb => ?_, fun n h hend => ?_, fun _ => sharesPrefix_iff_divergence?⟩
  · exact Std.LawfulEqCmp.eq_of_compare (Std.OrientedCmp.isLE_antisymm hpq hqp)
  · rw [← Bool.or_eq_true]
    exact isLE_or_isLE p q
  · obtain ⟨-, rfl⟩ := divergence?_eq_some_iff.mp h
    rw [compare_eq_at_shared, ha, hb]
    rfl
  · obtain ⟨-, rfl⟩ := divergence?_eq_some_iff.mp h
    rw [compare_eq_at_shared]
    rcases hend with hend | hend <;> rw [hend]
    cases p[shared p q]? <;> rfl

theorem compare_by_divergence_nested :
    let p : Path := [⟨0, 1⟩, ⟨2, 0⟩]
    let q : Path := [⟨0, 1⟩, ⟨2, 3⟩]
    let r : Path := [⟨0, 1⟩, ⟨2, 3⟩, ⟨0, 0⟩]
    divergence? p q = some 1 ∧ p.compare q = .lt ∧ divergence? q r = some 2 ∧ q.compare r = .lt ∧
      (p.compare r).isLE ∧ q.sharesPrefix r 2 ∧ ¬q.sharesPrefix p 2 := by
  intro p q r
  have hpq : divergence? p q = some 1 := by decide
  have hqr : divergence? q r = some 2 := by decide
  obtain ⟨-, -, htrans, -, -, -, -, hstep, -⟩ := compare_by_divergence p q r
  obtain ⟨-, -, -, -, -, -, -, -, hend, hshares⟩ := compare_by_divergence q r p
  obtain ⟨-, -, -, -, -, -, -, -, -, hshares'⟩ := compare_by_divergence q p r
  have hlt : p.compare q = .lt := (hstep 1 ⟨2, 0⟩ ⟨2, 3⟩ hpq rfl rfl).trans (by decide)
  have hlt' : q.compare r = .lt := (hend 2 hqr (.inl rfl)).trans (by decide)
  refine ⟨hpq, hlt, hqr, hlt', htrans (by rw [hlt]; rfl) (by rw [hlt']; rfl), ?_, ?_⟩
  · exact (hshares 2).mpr ⟨by decide, by decide, .inr ⟨2, hqr, by decide⟩⟩
  · rw [hshares' 2]
    decide

end Path

end OfficeSchema
