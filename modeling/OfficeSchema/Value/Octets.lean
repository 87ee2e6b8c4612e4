import OfficeSchema.Pattern.Reader

/-!
Bytes written as text, two hexadecimal digits a byte or four base-64 digits for three bytes. A
text in base 64 is padded and its unused bits are zero, so each list of bytes has one such text.
-/

namespace OfficeSchema.Octets

def byteLength : List Char → Nat
  | [] => 0
  | c :: s => c.utf8Size + byteLength s

/-- Cuts a text behind a number of bytes, unless they end outside it or within a character. -/
def splitBytes? : Nat → List Char → Option (List Char × List Char)
  | 0, s => some ([], s)
  | _ + 1, [] => none
  | n + 1, c :: r =>
      if c.utf8Size ≤ n + 1 then
        (splitBytes? (n + 1 - c.utf8Size) r).map fun p => (c :: p.1, p.2)
      else none

def slice? (s : List Char) (i j : Nat) : Option (List Char) := do
  let (_, r) ← splitBytes? i s
  let (w, _) ← splitBytes? (j - i) r
  some w

@[irreducible]
def hexForm : Option Pattern.Regex := Pattern.Regex.ofText? "^([0-9a-fA-F]{2})*$".toList

def hasHexForm (s : List Char) : Bool := hexForm.any (·.occursIn s)

def hexByte? (s : List Char) : Option UInt8 :=
  let digits := match s with
    | '+' :: r => r
    | s => s
  if digits.isEmpty then none
  else ((Numeral.inBase? 16 0 digits).filter (· < 256)).map UInt8.ofNat

def hexOffsets (n : Nat) : List Nat := List.range' 0 ((n + 1) / 2) 2

/-- The form is checked on characters, but the digits are cut out by offsets. -/
def ofHex? (s : List Char) : Option (List UInt8) :=
  if hasHexForm s then
    (hexOffsets (byteLength s)).mapM fun i => (slice? s i (i + 2)).bind hexByte?
  else none

def toHex : List UInt8 → List Char
  | [] => []
  | b :: bs => Numeral.hexDigit (b.toNat / 16) :: Numeral.hexDigit (b.toNat % 16) :: toHex bs

def sixBits? (c : Char) : Option Nat :=
  if 'A' ≤ c && c ≤ 'Z' then some (c.toNat - 65)
  else if 'a' ≤ c && c ≤ 'z' then some (c.toNat - 71)
  else if '0' ≤ c && c ≤ '9' then some (c.toNat + 4)
  else if c == '+' then some 62
  else if c == '/' then some 63
  else none

def lastQuad? : Char → Char → Char → Char → Option (List UInt8)
  | a, b, '=', '=' =>
      match sixBits? a, sixBits? b with
      | some a, some b => if b % 16 = 0 then some [UInt8.ofNat (4 * a + b / 16)] else none
      | _, _ => none
  | a, b, c, '=' =>
      match sixBits? a, sixBits? b, sixBits? c with
      | some a, some b, some c =>
          if c % 4 = 0 then
            some [UInt8.ofNat (4 * a + b / 16), UInt8.ofNat (16 * (b % 16) + c / 4)]
          else none
      | _, _, _ => none
  | a, b, c, d =>
      match sixBits? a, sixBits? b, sixBits? c, sixBits? d with
      | some a, some b, some c, some d =>
          some [UInt8.ofNat (4 * a + b / 16), UInt8.ofNat (16 * (b % 16) + c / 4),
            UInt8.ofNat (64 * (c % 4) + d)]
      | _, _, _, _ => none

def ofQuads? : List Char → Option (List UInt8)
  | [] => some []
  | [a, b, c, d] => lastQuad? a b c d
  | a :: b :: c :: d :: r =>
      if d == '=' then none
      else match lastQuad? a b c d, ofQuads? r with
        | some bytes, some rest => some (bytes ++ rest)
        | _, _ => none
  | _ => none

def ofBase64? (s : List Char) : Option (List UInt8) :=
  ofQuads? (s.filter (fun c => !Text.isBlank c))

end OfficeSchema.Octets
