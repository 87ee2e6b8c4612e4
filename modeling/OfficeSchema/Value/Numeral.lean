import OfficeSchema.Text.Blank

namespace OfficeSchema.Numeral

def digit? (c : Char) : Option Nat :=
  if '0' ≤ c && c ≤ '9' then some (c.toNat - 48) else none

def digitsFrom (n : Nat) : List Char → Option Nat
  | [] => some n
  | c :: r =>
      match digit? c with
      | some d => digitsFrom (10 * n + d) r
      | none => none

def nat? : List Char → Option Nat
  | [] => none
  | c :: r => digitsFrom 0 (c :: r)

def int? : List Char → Option Int
  | '-' :: r => (nat? r).map (fun n => -(n : Int))
  | '+' :: r => (nat? r).map (fun n => (n : Int))
  | s => (nat? s).map (fun n => (n : Int))

def int64? (s : List Char) : Option Int :=
  (int? s).filter (fun i => -9223372036854775808 ≤ i && i ≤ 9223372036854775807)

/-- An unsigned number of 32 bits; a plus sign may stand in front, a minus sign may not. -/
def uint32? (s : List Char) : Option Nat :=
  let body := match s with
    | '+' :: r => r
    | s => s
  (nat? body).filter (fun n => n ≤ 4294967295)

def tenTo (n : Nat) : Nat := Nat.pow 10 n

def hexDigit? (c : Char) : Option Nat :=
  if '0' ≤ c && c ≤ '9' then some (c.toNat - 48)
  else if 'a' ≤ c && c ≤ 'f' then some (c.toNat - 87)
  else if 'A' ≤ c && c ≤ 'F' then some (c.toNat - 55)
  else none

def hexDigit (n : Nat) : Char := if n < 10 then Char.ofNat (48 + n) else Char.ofNat (87 + n)

theorem hexDigit?_hexDigit {n : Nat} (h : n < 16) : hexDigit? (hexDigit n) = some n := by
  have : ∀ m : Fin 16, hexDigit? (hexDigit m.val) = some m.val := by decide
  exact this ⟨n, h⟩

def inBase? (base n : Nat) : List Char → Option Nat
  | [] => some n
  | c :: r =>
      match hexDigit? c with
      | some d => if d < base then inBase? base (base * n + d) r else none
      | none => none

end OfficeSchema.Numeral
