import OfficeSchema.Pattern.Regex

/-!
What an expression matches. The positions that the search computes are those where a span of the
text that the expression describes can end; repetitions that would go on for ever add nothing, since
no span ends before it starts.
-/

namespace OfficeSchema.Pattern

def Look.holdsAt (t : Array Char) (i : Nat) (l : Look) : Bool :=
  l.holds (if i = 0 then none else t[i - 1]?) t[i]?

def Steps (R : Nat → Nat → Prop) : Nat → Nat → Nat → Prop
  | 0, i, j => i = j
  | n + 1, i, j => ∃ k, R i k ∧ Steps R n k j

namespace Steps

variable {R : Nat → Nat → Prop} {m n i j : Nat}

theorem add_iff : Steps R (m + n) i j ↔ ∃ k, Steps R m i k ∧ Steps R n k j := by
  induction m generalizing i with
  | zero => simp [Steps]
  | succ m ih =>
      rw [Nat.add_right_comm]
      simp only [Steps, ih]
      constructor
      · rintro ⟨a, ha, k, hk, h⟩
        exact ⟨k, ⟨a, ha, hk⟩, h⟩
      · rintro ⟨k, ⟨a, ha, hk⟩, h⟩
        exact ⟨a, ha, k, hk, h⟩

theorem invariant {P : Nat → Prop} (hP : ∀ i j, P i → R i j → P j) (hi : P i)
    (h : Steps R n i j) : P j := by
  induction n generalizing i with
  | zero => exact h ▸ hi
  | succ n ih =>
      obtain ⟨k, hk, h⟩ := h
      exact ih (hP i k hi hk) h

theorem le (hR : ∀ i j, R i j → i ≤ j) (h : Steps R n i j) : i ≤ j :=
  invariant (P := (i ≤ ·)) (fun _ _ hi hij => Nat.le_trans hi (hR _ _ hij)) i.le_refl h

theorem exists_short (hR : ∀ i j, R i j → i ≤ j) (h : Steps R n i j) :
    ∃ m ≤ j - i, Steps R m i j := by
  induction n generalizing i with
  | zero => exact ⟨0, Nat.zero_le _, h⟩
  | succ n ih =>
      obtain ⟨k, hk, h⟩ := h
      obtain ⟨m, hm, hsteps⟩ := ih h
      rcases Nat.eq_or_lt_of_le (hR i k hk) with rfl | hlt
      · exact ⟨m, hm, hsteps⟩
      · have := le hR h
        exact ⟨m + 1, by omega, k, hk, hsteps⟩

end Steps

namespace Regex

/-- Whether an expression describes the span of a text between two positions. A maximum below the
minimum of a repetition does not count. -/
def Spans (t : Array Char) : Regex → Nat → Nat → Prop
  | .empty, i, j => i = j
  | .one s, i, j => j = i + 1 ∧ ∃ c, t[i]? = some c ∧ s.mem c = true
  | .look l, i, j => i = j ∧ l.holdsAt t i = true
  | .group r, i, j => Spans t r i j
  | .seq a b, i, j => ∃ k, Spans t a i k ∧ Spans t b k j
  | .alt a b, i, j => Spans t a i j ∨ Spans t b i j
  | .repeated r low high, i, j =>
      ∃ n, low ≤ n ∧ (∀ m, high = some m → n ≤ max low m) ∧ Steps (Spans t r) n i j

variable {t : Array Char} {r : Regex} {i j : Nat}

theorem Spans.le (h : Spans t r i j) : i ≤ j := by
  induction r generalizing i j with
  | empty => exact Nat.le_of_eq h
  | one s =>
      obtain ⟨rfl, -⟩ := h
      exact Nat.le_succ i
  | look l => exact Nat.le_of_eq h.1
  | group r ih => exact ih h
  | seq a b iha ihb =>
      obtain ⟨k, ha, hb⟩ := h
      exact Nat.le_trans (iha ha) (ihb hb)
  | alt a b iha ihb => exact h.elim iha ihb
  | repeated r low high ih =>
      obtain ⟨n, -, -, h⟩ := h
      exact h.le fun _ _ => ih

theorem Spans.le_size (h : Spans t r i j) (hi : i ≤ t.size) : j ≤ t.size := by
  induction r generalizing i j with
  | empty => exact h ▸ hi
  | one s =>
      obtain ⟨rfl, c, hc, -⟩ := h
      exact (Array.getElem?_eq_some_iff.mp hc).1
  | look l => exact h.1 ▸ hi
  | group r ih => exact ih h hi
  | seq a b iha ihb =>
      obtain ⟨k, ha, hb⟩ := h
      exact ihb hb (iha ha hi)
  | alt a b iha ihb => exact h.elim (iha · hi) (ihb · hi)
  | repeated r low high ih =>
      obtain ⟨n, -, -, h⟩ := h
      exact h.invariant (P := (· ≤ t.size)) (fun _ _ hi hij => ih hij hi) hi

theorem mem_mergeAsc {a : Nat} {ps qs : List Nat} : a ∈ mergeAsc ps qs ↔ a ∈ ps ∨ a ∈ qs := by
  fun_induction mergeAsc ps qs with
  | case1 qs => simp
  | case2 p ps => simp
  | case3 p ps q qs hlt ih => simp [ih, or_assoc]
  | case4 p ps q qs hnot hlt ih => simp only [List.mem_cons, ih, or_left_comm]
  | case5 p ps q qs hnot hnot' ih =>
      obtain rfl : p = q := by omega
      rw [List.mem_cons, List.mem_cons, List.mem_cons, ih, or_or_distrib_left]

structure Follows (bound : Nat) (R : Nat → Nat → Prop) (step : List Nat → List Nat) : Prop where
  stays : ∀ i j, R i j → i ≤ bound → j ≤ bound
  mem_iff : ∀ ps, (∀ p ∈ ps, p ≤ bound) → ∀ q, q ∈ step ps ↔ ∃ p ∈ ps, R p q

namespace Follows

variable {bound n q : Nat} {R : Nat → Nat → Prop} {step : List Nat → List Nat} {ps : List Nat}

theorem bounded (h : Follows bound R step) (hps : ∀ p ∈ ps, p ≤ bound) :
    ∀ q ∈ step ps, q ≤ bound := by
  intro q hq
  obtain ⟨p, hp, hpq⟩ := (h.mem_iff ps hps q).mp hq
  exact h.stays p q hpq (hps p hp)

theorem mem_of_steps (h : Follows bound R step) (hps : ∀ p ∈ ps, p ≤ bound)
    (hsub : ∀ q ∈ step ps, q ∈ ps) {p : Nat} (hp : p ∈ ps) (hsteps : Steps R n p q) : q ∈ ps :=
  hsteps.invariant (P := (· ∈ ps))
    (fun i j hi hij => hsub j ((h.mem_iff ps hps j).mpr ⟨i, hi, hij⟩)) hp

theorem exists_steps (h : Follows bound R step) (hps : ∀ p ∈ ps, p ≤ bound)
    (hsub : ∀ q ∈ ps, q ∈ step ps) (hq : q ∈ ps) (n : Nat) : ∃ p ∈ ps, Steps R n p q := by
  induction n generalizing q with
  | zero => exact ⟨q, hq, rfl⟩
  | succ n ih =>
      obtain ⟨k, hk, hkq⟩ := (h.mem_iff ps hps q).mp (hsub q hq)
      obtain ⟨p, hp, hpk⟩ := ih hk
      exact ⟨p, hp, Steps.add_iff.mpr ⟨k, hpk, q, hkq, rfl⟩⟩

theorem mem_advance (h : Follows bound R step) (hps : ∀ p ∈ ps, p ≤ bound) :
    q ∈ advance step n ps ↔ ∃ p ∈ ps, Steps R n p q := by
  induction n generalizing ps with
  | zero => simp [advance, Steps]
  | succ n ih =>
      rw [advance]
      split
      · next hsame =>
          have hsame : step ps = ps := eq_of_beq hsame
          refine ⟨fun hq => h.exists_steps hps (fun q hq => hsame.symm ▸ hq) hq _, ?_⟩
          rintro ⟨p, hp, hsteps⟩
          exact h.mem_of_steps hps (fun q hq => hsame ▸ hq) hp hsteps
      · rw [ih (h.bounded hps)]
        simp only [h.mem_iff ps hps, Steps]
        constructor
        · rintro ⟨k, ⟨p, hp, hpk⟩, hsteps⟩
          exact ⟨p, hp, k, hpk, hsteps⟩
        · rintro ⟨p, hp, k, hpk, hsteps⟩
          exact ⟨k, ⟨p, hp, hpk⟩, hsteps⟩

theorem mem_collect (h : Follows bound R step) (hps : ∀ p ∈ ps, p ≤ bound) :
    q ∈ collect step n ps ↔ ∃ m ≤ n, ∃ p ∈ ps, Steps R m p q := by
  induction n generalizing ps with
  | zero => simp [collect, Steps]
  | succ n ih =>
      rw [collect]
      split
      · next hsame =>
          have hsame : mergeAsc ps (step ps) = ps := eq_of_beq hsame
          refine ⟨fun hq => ⟨0, Nat.zero_le _, q, hq, rfl⟩, ?_⟩
          rintro ⟨m, -, p, hp, hsteps⟩
          refine h.mem_of_steps hps (fun q hq => ?_) hp hsteps
          rw [← hsame]
          exact mem_mergeAsc.mpr (.inr hq)
      · have hnext : ∀ p ∈ mergeAsc ps (step ps), p ≤ bound := fun p hp =>
          (mem_mergeAsc.mp hp).elim (hps p) (h.bounded hps p)
        rw [ih hnext]
        simp only [mem_mergeAsc, h.mem_iff ps hps]
        constructor
        · rintro ⟨m, hm, k, hk | ⟨p, hp, hpk⟩, hsteps⟩
          · exact ⟨m, Nat.le_succ_of_le hm, k, hk, hsteps⟩
          · exact ⟨m + 1, Nat.succ_le_succ hm, p, hp, k, hpk, hsteps⟩
        · rintro ⟨m, hm, p, hp, hsteps⟩
          cases m with
          | zero => exact ⟨0, Nat.zero_le _, p, .inl hp, hsteps⟩
          | succ m =>
              obtain ⟨k, hpk, hsteps⟩ := hsteps
              exact ⟨m, Nat.le_of_succ_le_succ hm, k, .inr ⟨p, hp, hpk⟩, hsteps⟩

end Follows

theorem mem_repeated (h : Follows t.size (Spans t r) (r.ends t)) {low : Nat} {high : Option Nat}
    {ps : List Nat} (hps : ∀ p ∈ ps, p ≤ t.size) (q : Nat) :
    q ∈ (Regex.repeated r low high).ends t ps ↔ ∃ p ∈ ps, Spans t (.repeated r low high) p q := by
  have hstart : ∀ k ∈ advance (r.ends t) low ps, k ≤ t.size := by
    intro k hk
    obtain ⟨p, hp, hsteps⟩ := (h.mem_advance hps).mp hk
    exact hsteps.invariant (P := (· ≤ t.size)) (fun i j hi hij => h.stays i j hij hi) (hps p hp)
  cases high with
  | none =>
      simp only [ends, h.mem_collect hstart, h.mem_advance hps, Spans]
      constructor
      · rintro ⟨m, -, k, ⟨p, hp, hpk⟩, hkq⟩
        exact ⟨p, hp, low + m, Nat.le_add_right _ _, nofun, Steps.add_iff.mpr ⟨k, hpk, hkq⟩⟩
      · rintro ⟨p, hp, n, hn, -, hsteps⟩
        obtain ⟨m, rfl⟩ := Nat.exists_eq_add_of_le hn
        obtain ⟨k, hpk, hkq⟩ := Steps.add_iff.mp hsteps
        -- the text is longer than any way through it that always moves on
        obtain ⟨m', hm', hkq⟩ := hkq.exists_short fun _ _ => Spans.le
        have hk := hstart k ((h.mem_advance hps).mpr ⟨p, hp, hpk⟩)
        have hq := hkq.invariant (P := (· ≤ t.size)) (fun i j hi hij => h.stays i j hij hi) hk
        exact ⟨m', by omega, k, ⟨p, hp, hpk⟩, hkq⟩
  | some b =>
      simp only [ends, h.mem_collect hstart, h.mem_advance hps, Spans, Option.some.injEq,
        forall_eq']
      constructor
      · rintro ⟨m, hm, k, ⟨p, hp, hpk⟩, hkq⟩
        exact ⟨p, hp, low + m, Nat.le_add_right _ _, by omega, Steps.add_iff.mpr ⟨k, hpk, hkq⟩⟩
      · rintro ⟨p, hp, n, hn, hb, hsteps⟩
        obtain ⟨m, rfl⟩ := Nat.exists_eq_add_of_le hn
        obtain ⟨k, hpk, hkq⟩ := Steps.add_iff.mp hsteps
        exact ⟨m, by omega, k, ⟨p, hp, hpk⟩, hkq⟩

/-- The search computes the ends of the spans that an expression describes. -/
theorem follows_ends (t : Array Char) (r : Regex) : Follows t.size (Spans t r) (r.ends t) := by
  induction r with
  | empty => exact ⟨fun _ _ => Spans.le_size, fun ps _ q => by simp [ends, Spans]⟩
  | one s =>
      refine ⟨fun _ _ => Spans.le_size, fun ps _ q => ?_⟩
      simp only [ends, List.mem_filterMap, Spans]
      refine exists_congr fun p => and_congr_right fun _ => ?_
      cases hc : t[p]? with
      | none => simp
      | some c => simp [eq_comm (a := q), and_comm]
  | look l =>
      refine ⟨fun _ _ => Spans.le_size, fun ps _ q => ?_⟩
      simp only [ends, List.mem_filter, Spans, Look.holdsAt]
      constructor
      · rintro ⟨hq, h⟩
        exact ⟨q, hq, rfl, h⟩
      · rintro ⟨p, hp, rfl, h⟩
        exact ⟨hp, h⟩
  | group r ih => exact ih
  | seq a b iha ihb =>
      refine ⟨fun _ _ => Spans.le_size, fun ps hps q => ?_⟩
      rw [ends, ihb.mem_iff _ (iha.bounded hps)]
      simp only [iha.mem_iff ps hps, Spans]
      constructor
      · rintro ⟨k, ⟨p, hp, hpk⟩, hkq⟩
        exact ⟨p, hp, k, hpk, hkq⟩
      · rintro ⟨p, hp, k, hpk, hkq⟩
        exact ⟨k, ⟨p, hp, hpk⟩, hkq⟩
  | alt a b iha ihb =>
      refine ⟨fun _ _ => Spans.le_size, fun ps hps q => ?_⟩
      simp only [ends, mem_mergeAsc, iha.mem_iff ps hps, ihb.mem_iff ps hps, Spans, and_or_left,
        exists_or]
  | repeated r low high ih => exact ⟨fun _ _ => Spans.le_size, fun ps hps => mem_repeated ih hps⟩

theorem occursIn_iff {s : List Char} :
    r.occursIn s = true ↔ ∃ i j, i ≤ s.length ∧ Spans s.toArray r i j := by
  have hrange : ∀ p ∈ List.range (s.toArray.size + 1), p ≤ s.toArray.size := fun p hp =>
    Nat.le_of_lt_succ (List.mem_range.mp hp)
  rw [occursIn, Bool.not_eq_true', List.isEmpty_eq_false_iff_exists_mem]
  constructor
  · rintro ⟨j, hj⟩
    obtain ⟨i, hi, hij⟩ := ((follows_ends s.toArray r).mem_iff _ hrange j).mp hj
    exact ⟨i, j, hrange i hi, hij⟩
  · rintro ⟨i, j, hi, hij⟩
    have hmem : i ∈ List.range (s.toArray.size + 1) := List.mem_range.mpr (Nat.lt_succ_of_le hi)
    exact ⟨j, ((follows_ends s.toArray r).mem_iff _ hrange j).mpr ⟨i, hmem, hij⟩⟩

def MatchesWhole (r : Regex) (s : List Char) : Prop := Spans s.toArray r 0 s.length

end Regex

end OfficeSchema.Pattern
