import OfficeSchema.Proofs.Pattern.Anchoring
import OfficeSchema.Value.SimpleType

/-!
Bytes in hexadecimal digits. What has the form of such bytes takes one byte a character, so that the
digits are cut out where the form put them; reading them undoes writing them, in whatever case.
-/

namespace OfficeSchema

namespace Numeral

def IsHexDigit (c : Char) : Prop := (hexDigit? c).isSome = true

instance (c : Char) : Decidable (IsHexDigit c) := inferInstanceAs (Decidable (_ = true))

theorem isHexDigit_iff {c : Char} : IsHexDigit c ↔
    48 ≤ c.toNat ∧ c.toNat ≤ 57 ∨ 97 ≤ c.toNat ∧ c.toNat ≤ 102 ∨ 65 ≤ c.toNat ∧ c.toNat ≤ 70 := by
  have hle : ∀ a b : Char, a ≤ b ↔ a.toNat ≤ b.toNat := fun a b => UInt32.le_iff_toNat_le
  simp only [IsHexDigit, hexDigit?, hle, Bool.and_eq_true, decide_eq_true_eq, Char.reduceToNat]
  split
  · next hdecimal => simp [hdecimal]
  · next hdecimal =>
    split
    · next hlower => simp [hlower]
    · next hlower => split <;> simp [*]

theorem toNat_lt_of_isHexDigit {c : Char} (h : IsHexDigit c) : c.toNat < 128 := by
  rw [isHexDigit_iff] at h
  omega

/-- What holds of the digits among the first characters holds of all of them. -/
theorem IsHexDigit.of_ascii {P : Char → Prop}
    (hall : ∀ n < 128, IsHexDigit (Char.ofNat n) → P (Char.ofNat n)) {c : Char}
    (h : IsHexDigit c) : P c := by
  have hc := hall c.toNat (toNat_lt_of_isHexDigit h)
  rw [Char.ofNat_toNat] at hc
  exact hc h

theorem utf8Size_of_isHexDigit {c : Char} (h : IsHexDigit c) : c.utf8Size = 1 :=
  h.of_ascii (P := fun c => c.utf8Size = 1) (by decide)

theorem exists_hexDigit_eq {c : Char} (h : IsHexDigit c) :
    ∃ n < 16, hexDigit? c = some n ∧ hexDigit n = c.toLower :=
  h.of_ascii (P := fun c => ∃ n < 16, hexDigit? c = some n ∧ hexDigit n = c.toLower) (by decide)

theorem isHexDigit_of_toLower {c : Char} (h : IsHexDigit c.toLower) : IsHexDigit c := by
  by_cases hupper : c.val ≥ 'A'.val ∧ c.val ≤ 'Z'.val
  · have hall : ∀ n < 128, IsHexDigit (Char.ofNat n).toLower → IsHexDigit (Char.ofNat n) := by
      decide
    have hc : c.toNat ≤ 90 := UInt32.le_iff_toNat_le.mp hupper.2
    have hdigit := hall c.toNat (by omega)
    rw [Char.ofNat_toNat] at hdigit
    exact hdigit h
  · have hsame : c.toLower = c := dif_neg hupper
    rwa [hsame] at h

theorem isHexDigit_hexDigit {n : Nat} (hn : n < 16) : IsHexDigit (hexDigit n) := by
  rw [IsHexDigit, hexDigit?_hexDigit hn]
  rfl

end Numeral

namespace Octets

open Numeral

theorem splitBytes?_eq_some_iff {n : Nat} {s u v : List Char} :
    splitBytes? n s = some (u, v) ↔ s = u ++ v ∧ byteLength u = n := by
  fun_induction splitBytes? n s generalizing u v with
  | case1 s =>
      have hzero : byteLength u = 0 ↔ u = [] := by
        cases u <;> simp [byteLength, Nat.ne_of_gt (Char.utf8Size_pos _)]
      rw [hzero]
      constructor
      · rintro ⟨⟩
        exact ⟨rfl, rfl⟩
      · rintro ⟨rfl, rfl⟩
        rfl
  | case2 n =>
      refine ⟨nofun, ?_⟩
      rintro ⟨heq, hn⟩
      obtain ⟨rfl, -⟩ := List.nil_eq_append_iff.mp heq
      exact absurd hn nofun
  | case3 n c r hle ih =>
      simp only [Option.map_eq_some_iff, Prod.exists, ih, Prod.mk.injEq]
      constructor
      · rintro ⟨u, v, ⟨rfl, hu⟩, rfl, rfl⟩
        refine ⟨rfl, ?_⟩
        simp only [byteLength] at hu ⊢
        omega
      · rintro ⟨heq, hu⟩
        cases u with
        | nil => exact absurd hu nofun
        | cons d u =>
            obtain ⟨rfl, rfl⟩ := List.cons.inj heq
            refine ⟨u, v, ⟨rfl, ?_⟩, rfl, rfl⟩
            simp only [byteLength] at hu ⊢
            omega
  | case4 n c r hlt =>
      refine ⟨nofun, ?_⟩
      rintro ⟨heq, hu⟩
      cases u with
      | nil => exact absurd hu nofun
      | cons d u =>
          obtain ⟨rfl, -⟩ := List.cons.inj heq
          simp only [byteLength] at hu
          omega

theorem slice?_eq_some_iff {i j : Nat} {s w : List Char} :
    slice? s i j = some w ↔ ∃ u v, s = u ++ w ++ v ∧ byteLength u = i ∧ byteLength w = j - i := by
  simp only [slice?, bind, Option.bind_eq_some_iff, Prod.exists, splitBytes?_eq_some_iff,
    Option.some.injEq]
  constructor
  · rintro ⟨u, r, ⟨rfl, hu⟩, w, v, ⟨rfl, hw⟩, rfl⟩
    exact ⟨u, v, (List.append_assoc ..).symm, hu, hw⟩
  · rintro ⟨u, v, rfl, hu, hw⟩
    exact ⟨u, w ++ v, ⟨List.append_assoc .., hu⟩, w, v, ⟨rfl, hw⟩, rfl⟩

theorem byteLength_of_hexDigits {s : List Char} (h : ∀ c ∈ s, IsHexDigit c) :
    byteLength s = s.length := by
  induction s with
  | nil => rfl
  | cons c s ih =>
      obtain ⟨hc, hs⟩ := List.forall_mem_cons.mp h
      rw [byteLength, utf8Size_of_isHexDigit hc, ih hs, List.length_cons, Nat.add_comm]

section Form

open Pattern Regex

def hexSet : CharSet :=
  .union (.union (.union .empty (.span '0' '9')) (.span 'a' 'f')) (.span 'A' 'F')

theorem mem_hexSet {c : Char} : hexSet.mem c = true ↔ IsHexDigit c := by
  simp [hexSet, CharSet.empty, CharSet.span, CharSet.mem, Text.Range.holds, Text.Range.covers,
    isHexDigit_iff, or_assoc]

def hexPair : Regex := .group (.repeated (.one hexSet) 2 (some 2))

theorem hexForm_eq : hexForm = some (.seq (.look .textStart)
    (.seq (.repeated hexPair 0 none) (.look .textEnd))) := by
  decide +kernel

variable {t : Array Char} {i j : Nat}

theorem spans_hexPair : Spans t hexPair i j ↔
    j = i + 2 ∧ ∀ k, i ≤ k → k < j → ∃ c, t[k]? = some c ∧ IsHexDigit c := by
  simp only [hexPair, Spans, Option.some.injEq, forall_eq']
  constructor
  · rintro ⟨n, hlow, hhigh, hsteps⟩
    obtain rfl : n = 2 := by omega
    obtain ⟨-, ⟨rfl, hi⟩, -, ⟨rfl, hj⟩, rfl⟩ := hsteps
    refine ⟨rfl, fun k hk hlt => ?_⟩
    rcases Nat.eq_or_lt_of_le hk with rfl | hk
    · simpa only [mem_hexSet] using hi
    · obtain rfl : k = i + 1 := by omega
      simpa only [mem_hexSet] using hj
  · rintro ⟨rfl, hall⟩
    simp only [← mem_hexSet] at hall
    exact ⟨2, Nat.le_refl _, Nat.le_refl _, i + 1, ⟨rfl, hall i (by omega) (by omega)⟩, i + 2,
      ⟨rfl, hall (i + 1) (by omega) (by omega)⟩, rfl⟩

theorem steps_hexPair {n : Nat} : Steps (Spans t hexPair) n i j ↔
    j = i + 2 * n ∧ ∀ k, i ≤ k → k < j → ∃ c, t[k]? = some c ∧ IsHexDigit c := by
  induction n generalizing i with
  | zero =>
      simp only [Steps]
      constructor
      · rintro rfl
        exact ⟨rfl, fun k hk hlt => absurd hlt (Nat.not_lt.mpr hk)⟩
      · exact fun h => h.1.symm
  | succ n ih =>
      simp only [Steps, spans_hexPair, ih]
      constructor
      · rintro ⟨-, ⟨rfl, hpair⟩, rfl, hrest⟩
        refine ⟨by omega, fun k hk hlt => ?_⟩
        rcases Nat.lt_or_ge k (i + 2) with hnear | hfar
        · exact hpair k hk hnear
        · exact hrest k hfar hlt
      · rintro ⟨rfl, hall⟩
        exact ⟨i + 2, ⟨rfl, fun k hk hlt => hall k hk (by omega)⟩, by omega,
          fun k hk hlt => hall k (by omega) hlt⟩

theorem hasHexForm_iff {s : List Char} :
    hasHexForm s = true ↔ s.length % 2 = 0 ∧ ∀ c ∈ s, IsHexDigit c := by
  have hdigits : (∀ k, 0 ≤ k → k < s.length → ∃ c, s.toArray[k]? = some c ∧ IsHexDigit c) ↔
      ∀ c ∈ s, IsHexDigit c := by
    simp only [List.getElem?_toArray, List.mem_iff_getElem?]
    constructor
    · rintro hall c ⟨k, hk⟩
      obtain ⟨hlt, -⟩ := List.getElem?_eq_some_iff.mp hk
      obtain ⟨d, hd, hdigit⟩ := hall k (Nat.zero_le _) hlt
      rwa [Option.some.inj (hk.symm.trans hd)]
    · intro hall k _ hlt
      have hk := List.getElem?_eq_getElem hlt
      exact ⟨s[k], hk, hall _ ⟨k, hk⟩⟩
  rw [hasHexForm, hexForm_eq, Option.any_some, occursIn_anchored, MatchesWhole, Spans]
  simp only [steps_hexPair, hdigits, reduceCtorEq, false_implies, implies_true, true_and]
  constructor
  · rintro ⟨n, -, hn, h⟩
    exact ⟨by omega, h⟩
  · rintro ⟨heven, h⟩
    exact ⟨s.length / 2, Nat.zero_le _, by omega, h⟩

end Form

theorem hexByte?_pair {c d : Char} (hc : IsHexDigit c) (hd : IsHexDigit d) :
    ∃ b, hexByte? [c, d] = some b ∧ toHex [b] = [c.toLower, d.toLower] := by
  obtain ⟨m, hm, hcm, hmc⟩ := exists_hexDigit_eq hc
  obtain ⟨n, hn, hdn, hnd⟩ := exists_hexDigit_eq hd
  have hplus : c ≠ '+' := by
    rintro rfl
    exact absurd hc (by decide)
  have hsmall : 16 * m + n < 256 := by omega
  refine ⟨UInt8.ofNat (16 * m + n), ?_, ?_⟩
  · simp [hexByte?, hplus, inBase?, hcm, hdn, hm, hn, Option.filter, hsmall]
  · have hvalue : (UInt8.ofNat (16 * m + n)).toNat = 16 * m + n := by
      simp [UInt8.toNat_ofNat]; omega
    rw [toHex, toHex, hvalue, show (16 * m + n) / 16 = m by omega,
      show (16 * m + n) % 16 = n by omega, hmc, hnd]

theorem toHex_injective {b b' : List UInt8} (h : toHex b = toHex b') : b = b' := by
  have hdigit : ∀ {m n : Nat}, m < 16 → n < 16 → hexDigit m = hexDigit n → m = n :=
    fun hm hn heq => Option.some.inj (by rw [← hexDigit?_hexDigit hm, heq, hexDigit?_hexDigit hn])
  induction b generalizing b' with
  | nil =>
      cases b' with
      | nil => rfl
      | cons y bs' => simp [toHex] at h
  | cons x bs ih =>
      cases b' with
      | nil => simp [toHex] at h
      | cons y bs' =>
          simp only [toHex, List.cons.injEq] at h
          have hx := x.toNat_lt
          have hy := y.toNat_lt
          have hhigh := hdigit (by omega) (by omega) h.1
          have hlow := hdigit (by omega) (by omega) h.2.1
          rw [UInt8.toNat_inj.mp (show x.toNat = y.toNat by omega), ih h.2.2]

theorem slice?_pair {u v : List Char} {c d : Char} (hall : ∀ e ∈ u ++ c :: d :: v, IsHexDigit e) :
    slice? (u ++ c :: d :: v) u.length (u.length + 2) = some [c, d] := by
  refine slice?_eq_some_iff.mpr ⟨u, v, by simp, ?_, ?_⟩
  · exact byteLength_of_hexDigits fun e he => hall e (by simp [he])
  · rw [byteLength_of_hexDigits fun e he => hall e (by simp at he ⊢; grind)]
    simp

theorem mapM_hexByte? {n : Nat} {u v : List Char} (hlen : v.length = 2 * n)
    (hall : ∀ c ∈ u ++ v, IsHexDigit c) :
    ∃ b, (List.range' u.length n 2).mapM
        (fun i => (slice? (u ++ v) i (i + 2)).bind hexByte?) = some b ∧
      toHex b = v.map Char.toLower := by
  induction n generalizing u v with
  | zero =>
      obtain rfl := List.length_eq_zero_iff.mp hlen
      exact ⟨[], rfl, rfl⟩
  | succ n ih =>
      match v, hlen with
      | c :: d :: v, hlen =>
          obtain ⟨x, hx, hxhex⟩ := hexByte?_pair (hall c (by simp)) (hall d (by simp))
          obtain ⟨bs, hbs, hbshex⟩ := ih (u := u ++ [c, d]) (v := v)
            (by simp only [List.length_cons] at hlen; omega) (by simpa using hall)
          simp only [List.append_assoc, List.cons_append, List.nil_append, List.length_append,
            List.length_cons, List.length_nil] at hbs
          refine ⟨x :: bs, ?_, ?_⟩
          · simp [List.range'_succ, slice?_pair hall, hx, hbs]
          · simpa [toHex, hbshex] using hxhex

theorem ofHex?_of_hexDigits {s : List Char} (heven : s.length % 2 = 0)
    (hall : ∀ c ∈ s, IsHexDigit c) :
    ∃ b, ofHex? s = some b ∧ toHex b = s.map Char.toLower := by
  rw [ofHex?, if_pos (hasHexForm_iff.mpr ⟨heven, hall⟩), byteLength_of_hexDigits hall]
  exact mapM_hexByte? (u := []) (by omega) hall

theorem hexDigits_toHex (b : List UInt8) :
    (toHex b).length % 2 = 0 ∧ ∀ c ∈ toHex b, IsHexDigit c := by
  induction b with
  | nil => exact ⟨rfl, nofun⟩
  | cons x bs ih =>
      have hx := x.toNat_lt
      refine ⟨by simp only [toHex, List.length_cons]; omega, ?_⟩
      simp only [toHex, List.mem_cons, forall_eq_or_imp]
      exact ⟨isHexDigit_hexDigit (by omega), isHexDigit_hexDigit (by omega), ih.2⟩

theorem hasHexForm_of_ofHex? {s : List Char} {b : List UInt8} (h : ofHex? s = some b) :
    hasHexForm s = true := by
  by_cases hform : hasHexForm s = true
  · exact hform
  · rw [ofHex?, if_neg hform] at h
    exact absurd h nofun

theorem ofHex?_eq_some_iff {s : List Char} {b : List UInt8} :
    ofHex? s = some b ↔ toHex b = s.map Char.toLower := by
  constructor
  · intro h
    obtain ⟨heven, hall⟩ := hasHexForm_iff.mp (hasHexForm_of_ofHex? h)
    obtain ⟨b', hb', hhex⟩ := ofHex?_of_hexDigits heven hall
    rwa [Option.some.inj (h.symm.trans hb')]
  · intro h
    obtain ⟨heven, hdigits⟩ := hexDigits_toHex b
    simp only [h, List.length_map, List.forall_mem_map] at heven hdigits
    obtain ⟨b', hb', hhex⟩ := ofHex?_of_hexDigits heven fun c hc =>
      isHexDigit_of_toLower (hdigits c hc)
    rw [hb', toHex_injective (h.trans hhex.symm)]

theorem exists_slice?_of_hasHexForm {s : List Char} (h : hasHexForm s = true) {i : Nat}
    (hi : i ∈ hexOffsets (byteLength s)) : ∃ c d, slice? s i (i + 2) = some [c, d] := by
  obtain ⟨heven, hall⟩ := hasHexForm_iff.mp h
  rw [byteLength_of_hexDigits hall, hexOffsets, List.mem_range'] at hi
  obtain ⟨k, hk, rfl⟩ := hi
  rw [Nat.zero_add]
  have htake : (s.take (2 * k)).length = 2 * k := by
    rw [List.length_take]
    omega
  have hsplit := List.take_append_drop (2 * k) s
  have hdrop : (s.drop (2 * k)).length = s.length - 2 * k := List.length_drop
  match hrest : s.drop (2 * k) with
  | [] | [_] =>
      simp only [hrest, List.length_nil, List.length_singleton] at hdrop
      omega
  | c :: d :: v =>
      rw [hrest] at hsplit
      have hslice := slice?_pair (hsplit.symm ▸ hall)
      rw [hsplit, htake] at hslice
      exact ⟨c, d, hslice⟩

end Octets

open Octets

theorem Primitive.parse_hexBinary_iff (s : String) :
    ((hexBinary.parse s).isSome ↔ s.toList.length % 2 = 0 ∧ ∀ c ∈ s.toList, Numeral.IsHexDigit c) ∧
    (∀ i, hexBinary.parse s = some i ↔ ∃ b, i = .bytes b ∧ toHex b = s.toList.map Char.toLower) ∧
    (hasHexForm s.toList = true → ∀ i ∈ hexOffsets (byteLength s.toList),
      ∃ c d, slice? s.toList i (i + 2) = some [c, d]) := by
  refine ⟨?_, fun i => ?_, fun h i hi => exists_slice?_of_hasHexForm h hi⟩
  · constructor
    · intro h
      obtain ⟨b, hb⟩ : ∃ b, ofHex? s.toList = some b := by
        simpa [parse, Option.isSome_iff_exists] using h
      exact hasHexForm_iff.mp (hasHexForm_of_ofHex? hb)
    · rintro ⟨heven, hall⟩
      obtain ⟨b, hb, -⟩ := ofHex?_of_hexDigits heven hall
      simp [parse, hb]
  · simp only [parse, Option.map_eq_some_iff, ofHex?_eq_some_iff, eq_comm (a := i), and_comm]

theorem Primitive.parse_hexBinary_mixed_case : hexBinary.parse "0aFF" = some (.bytes [10, 255]) :=
  ((parse_hexBinary_iff "0aFF").2.1 _).mpr ⟨_, rfl, by decide⟩

end OfficeSchema
