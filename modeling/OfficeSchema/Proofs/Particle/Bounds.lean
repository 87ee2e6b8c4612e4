import Mathlib.Algebra.BigOperators.Ring.List
import Mathlib.Algebra.GroupWithZero.Nat
import Mathlib.Data.List.Induction
import OfficeSchema.Particle.Occurs

namespace OfficeSchema

def cap (n : Nat) : Nat := min n countCap

theorem capMul_cap (a b : Nat) : capMul (cap a) b = cap (a * b) := by
  rcases Nat.le_total a countCap with ha | ha
  · rw [cap, Nat.min_eq_left ha]
    rfl
  · rw [cap, Nat.min_eq_right ha]
    cases b with
    | zero => rfl
    | succ b =>
        have hcap : countCap ≤ countCap * (b + 1) := Nat.le_mul_of_pos_right _ b.succ_pos
        have hexact : countCap * (b + 1) ≤ a * (b + 1) := Nat.mul_le_mul_right _ ha
        rw [capMul, cap, Nat.min_eq_right hcap, Nat.min_eq_right (hcap.trans hexact)]

theorem cap_ne_zero {n : Nat} (h : n ≠ 0) : cap n ≠ 0 := by
  simp only [cap, countCap]
  omega

namespace Occurs

variable {o : Occurs} {bs cs : List Occurs} {ms : List (Option Nat)} {count : Nat}

def capped (o : Occurs) : Occurs := ⟨cap o.min, o.max.map cap⟩

/-- The maximum that several maxima allow together: zero if one of them is zero, else none at all
if one of them is missing, else their product. -/
def exactMax (ms : List (Option Nat)) : Option Nat :=
  if some 0 ∈ ms then some 0
  else if none ∈ ms then none
  else some (ms.filterMap id).prod

def exactProduct (bs : List Occurs) : Occurs := ⟨(bs.map min).prod, exactMax (bs.map max)⟩

theorem exactMax_of_zero (h : some 0 ∈ ms) : exactMax ms = some 0 := if_pos h

theorem exactMax_of_unbounded (h : some 0 ∉ ms) (hnone : none ∈ ms) : exactMax ms = none := by
  rw [exactMax, if_neg h, if_pos hnone]

theorem exactMax_of_bounded (h : some 0 ∉ ms) (hnone : none ∉ ms) :
    exactMax ms = some (ms.filterMap id).prod := by
  rw [exactMax, if_neg h, if_neg hnone]

theorem exactMax_ne_zero (h : some 0 ∉ ms) : (exactMax ms).map cap ≠ some 0 := by
  rw [exactMax, if_neg h]
  split
  · simp
  · have hprod : (ms.filterMap id).prod ≠ 0 := List.prod_ne_zero (by simpa using h)
    simpa using cap_ne_zero hprod

theorem timesMax_of_unbounded {a b : Option Nat} (ha : a ≠ some 0) (hb : b ≠ some 0)
    (h : a = none ∨ b = none) : timesMax a b = none := by
  rcases h with rfl | rfl
  · cases b with
    | none => rfl
    | some n => cases n with
      | zero => exact absurd rfl hb
      | succ n => rfl
  · cases a with
    | none => rfl
    | some n => cases n with
      | zero => exact absurd rfl ha
      | succ n => rfl

theorem timesMax_exactMax (ms : List (Option Nat)) (m : Option Nat) :
    timesMax ((exactMax ms).map cap) m = (exactMax (ms ++ [m])).map cap := by
  by_cases hms : some 0 ∈ ms
  · rw [exactMax_of_zero hms, exactMax_of_zero (List.mem_append_left _ hms)]
    exact timesMax_zero_left m
  by_cases hm : m = some 0
  · subst hm
    rw [timesMax_zero_right, exactMax_of_zero (by simp)]
    rfl
  have hzero : some 0 ∉ ms ++ [m] := by simpa [hms] using Ne.symm hm
  by_cases hnone : none ∈ ms ++ [m]
  · -- without a zero so far the product is not zero, so that a missing maximum shows
    rw [exactMax_of_unbounded hzero hnone, timesMax_of_unbounded (exactMax_ne_zero hms) hm]
    · rfl
    · rcases List.mem_append.mp hnone with h | h
      · exact .inl (by rw [exactMax_of_unbounded hms h, Option.map_none])
      · exact .inr (List.mem_singleton.mp h).symm
  · rw [exactMax_of_bounded hms (fun h => hnone (List.mem_append_left _ h)),
      exactMax_of_bounded hzero hnone]
    cases m with
    | none => simp at hnone
    | some n => simp [timesMax, capMul_cap]

theorem times_exactProduct (bs : List Occurs) (b : Occurs) :
    (exactProduct bs).capped.times b = (exactProduct (bs ++ [b])).capped := by
  simp only [times, capped, exactProduct, capMul_cap, timesMax_exactMax, List.map_append,
    List.map_cons, List.map_nil, List.prod_append, List.prod_singleton]

theorem product_eq (bs : List Occurs) : product bs = (exactProduct bs).capped := by
  induction bs using List.reverseRecOn with
  | nil => rfl
  | append_singleton bs b ih =>
      rw [product] at ih
      rw [product, List.foldl_append, ih]
      exact times_exactProduct bs b

theorem exactProduct_perm (h : bs.Perm cs) : exactProduct bs = exactProduct cs := by
  have hmax : (bs.map max).Perm (cs.map max) := h.map max
  simp only [exactProduct, exactMax, hmax.mem_iff, (h.map min).prod_eq, (hmax.filterMap id).prod_eq]

theorem isExceeded_capped (h : count ≤ countCap) :
    o.capped.isExceeded count = o.isExceeded count := by
  cases hmax : o.max with
  | none => simp [isExceeded, capped, hmax]
  | some m =>
      simp only [isExceeded, capped, hmax, Option.map_some, decide_eq_decide, cap]
      omega

theorem isMissing_capped (h : count < countCap) : o.capped.isMissing count = o.isMissing count := by
  rw [isMissing, isMissing, decide_eq_decide]
  simp only [capped, cap]
  omega

/-- The product of bounds is their exact product with one cap at the end. It does not depend on the
order of the bounds, and counts below the cap are judged as by the exact product. -/
theorem product_capped (bs : List Occurs) :
    product bs = (exactProduct bs).capped ∧
    (∀ cs, cs.Perm bs → product cs = product bs) ∧
    (∀ count ≤ countCap, (product bs).isExceeded count = (exactProduct bs).isExceeded count) ∧
    ∀ count < countCap, (product bs).isMissing count = (exactProduct bs).isMissing count := by
  refine ⟨product_eq bs, fun cs h => ?_, fun count h => ?_, fun count h => ?_⟩
  · rw [product_eq, product_eq, exactProduct_perm h]
  · rw [product_eq, isExceeded_capped h]
  · rw [product_eq, isMissing_capped h]

theorem product_capped_reversed :
    let bs : List Occurs := [⟨65536, some 65536⟩, ⟨3, some 65537⟩, ⟨65536, some 2⟩]
    bs.reverse.Perm bs ∧ product bs.reverse = ⟨4294967295, some 4294967295⟩ ∧
      (product bs).isExceeded 4294967295 = false ∧ (product bs).isMissing 4294967294 = true := by
  intro bs
  have hperm : bs.reverse.Perm bs := bs.reverse_perm
  obtain ⟨-, horder, hexceeded, hmissing⟩ := product_capped bs
  refine ⟨hperm, (horder _ hperm).trans (by decide +kernel), ?_, ?_⟩
  · exact (hexceeded 4294967295 (by decide)).trans (by decide)
  · exact (hmissing 4294967294 (by decide)).trans (by decide)

-- at the cap itself, a capped minimum no longer shows that occurrences are missing
example : (product [⟨65536, none⟩, ⟨65536, none⟩]).isMissing countCap = false ∧
    (exactProduct [⟨65536, none⟩, ⟨65536, none⟩]).isMissing countCap = true := by decide

end Occurs

end OfficeSchema
