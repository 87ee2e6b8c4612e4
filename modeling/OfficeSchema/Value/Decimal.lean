import OfficeSchema.Value.Numeral

/-!
Decimal numbers with a mantissa of 96 bits and at most 28 fraction digits. Trailing zeros are kept,
so equal numbers may be written differently; they are compared by value.
-/

namespace OfficeSchema

structure Decimal where
  isNegative : Bool
  mantissa : Nat
  scale : Nat
  deriving DecidableEq, Repr

namespace Decimal

def mantissaBound : Nat := 79228162514264337593543950336

def maxScale : Nat := 28

def make (isNegative : Bool) (mantissa scale : Nat) : Decimal :=
  ⟨isNegative && mantissa != 0, mantissa, scale⟩

def ofInt (i : Int) : Decimal := make (i < 0) i.natAbs 0

/-- Ends a number whose further digits do not fit: the next character rounds it, a half away from
zero, and nothing behind that character counts. -/
def roundedBy (isNegative : Bool) (mantissa scale : Nat) (next : Char) : Option Decimal :=
  let digit? := if next == '_' || next == '.' then some 0 else Numeral.digit? next
  match digit? with
  | none => none
  | some d =>
      let m := if 5 ≤ d then mantissa + 1 else mantissa
      if m < mantissaBound then some (make isNegative m scale)
      else match scale with
        | 0 => none
        | s + 1 => some (make isNegative ((m + 4) / 10) s)

def readFrom (isNegative : Bool) (point started : Bool) (mantissa scale : Nat) :
    List Char → Option Decimal
  | [] => if started then some (make isNegative mantissa scale) else none
  | c :: r =>
      if point && maxScale ≤ scale then roundedBy isNegative mantissa scale c
      else match Numeral.digit? c with
        | some d =>
            let next := 10 * mantissa + d
            if next < mantissaBound then
              readFrom isNegative point true next (if point then scale + 1 else scale) r
            else if point then roundedBy isNegative mantissa scale c
            else none
        | none =>
            if c == '.' && !point then readFrom isNegative true started mantissa scale r
            else if c == '_' && started then readFrom isNegative point started mantissa scale r
            else none

def ofText? : List Char → Option Decimal
  | '-' :: r => readFrom true false false 0 0 r
  | '+' :: r => readFrom false false false 0 0 r
  | s => readFrom false false false 0 0 s

/-- The number times a power of ten. Fraction digits become whole ones before the mantissa grows. -/
def timesPower? (d : Decimal) (n : Nat) : Option Decimal :=
  if n ≤ d.scale then some { d with scale := d.scale - n }
  else if maxScale < n then none
  else
    let m := d.mantissa * Numeral.tenTo (n - d.scale)
    if m < mantissaBound then some (make d.isNegative m 0) else none

/-- The number divided by a power of ten. Digits beyond the largest scale are rounded off, a half
away from zero. -/
def overPower? (d : Decimal) (n : Nat) : Option Decimal :=
  if maxScale < n then none
  else if d.scale + n ≤ maxScale then some { d with scale := d.scale + n }
  else
    let surplus := d.scale + n - maxScale
    let half := 5 * Numeral.tenTo (surplus - 1)
    some (make d.isNegative ((d.mantissa + half) / Numeral.tenTo surplus) maxScale)

def isExponentMark (c : Char) : Bool := c == 'e' || c == 'E'

def ofScientific? (s : List Char) : Option Decimal :=
  match s.dropWhile (fun c => !isExponentMark c) with
  | [] => ofText? s
  | _ :: exponent =>
      (ofText? (s.takeWhile (fun c => !isExponentMark c))).bind (fun d =>
        match exponent with
        | '-' :: n => (Numeral.uint32? n).bind d.overPower?
        | n => (Numeral.uint32? n).bind d.timesPower?)

def scaledTo (d : Decimal) (places : Nat) : Int :=
  let n : Int := d.mantissa * Numeral.tenTo (places - d.scale)
  if d.isNegative then -n else n

def compare (a b : Decimal) : Ordering :=
  let places := max a.scale b.scale
  Ord.compare (a.scaledTo places) (b.scaledTo places)

def sameValue (a b : Decimal) : Bool := a.compare b == .eq

def isBelow (a b : Decimal) : Bool := a.compare b == .lt

def text (d : Decimal) : String :=
  let digits := (toString d.mantissa).toList
  let padded := List.replicate (d.scale + 1 - digits.length) '0' ++ digits
  let whole := padded.take (padded.length - d.scale)
  let part := padded.drop (padded.length - d.scale)
  String.ofList ((if d.isNegative then ['-'] else []) ++ whole ++
    (if part.isEmpty then [] else '.' :: part))

end Decimal

end OfficeSchema
