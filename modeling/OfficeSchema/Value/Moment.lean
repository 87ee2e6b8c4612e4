import OfficeSchema.Value.Numeral

/-!
Points in time. A text with an offset is strict in its widths and is kept in universal time; a text
without one may be loose. A leap second is the second before it, a thousand million nanoseconds
longer.
-/

namespace OfficeSchema

structure Moment where
  year : Int
  month : Nat
  day : Nat
  hour : Nat
  minute : Nat
  second : Nat
  nanosecond : Nat
  deriving DecidableEq, Repr

namespace Moment

def isLeapYear (y : Int) : Bool := y % 4 == 0 && (y % 100 != 0 || y % 400 == 0)

def daysInMonth (y : Int) (m : Nat) : Nat :=
  match m with
  | 2 => if isLeapYear y then 29 else 28
  | 4 | 6 | 9 | 11 => 30
  | _ => 31

def isYear (y : Int) : Bool := -262143 ≤ y && y ≤ 262142

/-- Checks the fields; second 60 is the leap second of any minute. -/
def make (y : Int) (mo d h mi s n : Nat) : Option Moment :=
  if isYear y && 1 ≤ mo && mo ≤ 12 && 1 ≤ d && d ≤ daysInMonth y mo &&
      h ≤ 23 && mi ≤ 59 && s ≤ 60 then
    if s = 60 then some ⟨y, mo, d, h, mi, 59, 1000000000 + n⟩
    else some ⟨y, mo, d, h, mi, s, n⟩
  else none

def nextDay (t : Moment) : Moment :=
  if t.day < daysInMonth t.year t.month then { t with day := t.day + 1 }
  else if t.month < 12 then { t with month := t.month + 1, day := 1 }
  else { t with year := t.year + 1, month := 1, day := 1 }

def previousDay (t : Moment) : Moment :=
  if 1 < t.day then { t with day := t.day - 1 }
  else if 1 < t.month then
    { t with month := t.month - 1, day := daysInMonth t.year (t.month - 1) }
  else { t with year := t.year - 1, month := 12, day := 31 }

def withMinutes (t : Moment) (minutes : Nat) : Moment :=
  { t with hour := minutes / 60, minute := minutes % 60 }

def minusOffset (t : Moment) (offset : Int) : Moment :=
  let local_ : Int := t.hour * 60 + t.minute
  let m := local_ - offset
  if m < 0 then t.previousDay.withMinutes (m + 1440).toNat
  else if 1440 ≤ m then t.nextDay.withMinutes (m - 1440).toNat
  else t.withMinutes m.toNat

def field (least most : Nat) (s : List Char) : Option (Nat × List Char) :=
  let digits := (s.take most).takeWhile Char.isDigit
  if digits.length < least then none
  else (Numeral.nat? digits).map (fun n => (n, s.drop digits.length))

def expect (c : Char) : List Char → Option (List Char)
  | [] => none
  | d :: r => if c == d then some r else none

def nanoseconds (s : List Char) : Option (Nat × List Char) := do
  let digits := (s.take 9).takeWhile Char.isDigit
  let n ← Numeral.nat? digits
  some (n * Numeral.tenTo (9 - digits.length), s.dropWhile Char.isDigit)

def fraction : List Char → Option (Nat × List Char)
  | '.' :: r => nanoseconds r
  | s => some (0, s)

def offset : List Char → Option (Int × List Char)
  | 'Z' :: r | 'z' :: r => some (0, r)
  | sign :: r => do
      let isWest ← if sign == '+' then some false
        else if sign == '-' || sign == '\u2212' then some true
        else none
      let (h, r) ← field 2 2 r
      let r ← expect ':' r
      let (m, r) ← field 2 2 r
      if 23 < h || 59 < m then none
      else
        let minutes : Int := h * 60 + m
        some (if isWest then -minutes else minutes, r)
  | [] => none

def ofStrict? (s : List Char) : Option Moment := do
  let (y, s) ← field 4 4 s
  let s ← expect '-' s
  let (mo, s) ← field 2 2 s
  let s ← expect '-' s
  let (d, s) ← field 2 2 s
  let s ← (expect 'T' s).or ((expect 't' s).or (expect ' ' s))
  let (h, s) ← field 2 2 s
  let s ← expect ':' s
  let (mi, s) ← field 2 2 s
  let s ← expect ':' s
  let (sec, s) ← field 2 2 s
  let (n, s) ← fraction s
  let (o, s) ← offset s
  let t ← make y mo d h mi sec n
  if s.isEmpty then some (t.minusOffset o) else none

def looseYear (s : List Char) : Option (Int × List Char) :=
  match Text.trimStart s with
  | '-' :: r => (field 1 r.length r).map (fun p => (-(p.1 : Int), p.2))
  | '+' :: r => (field 1 r.length r).map (fun p => ((p.1 : Int), p.2))
  | r => (field 1 4 r).map (fun p => ((p.1 : Int), p.2))

def looseField (s : List Char) : Option (Nat × List Char) := field 1 2 (Text.trimStart s)

/-- A text without an offset: fields of one or two digits, with blanks before them. -/
def ofLoose? (s : List Char) : Option Moment := do
  let (y, s) ← looseYear s
  let s ← expect '-' s
  let (mo, s) ← looseField s
  let s ← expect '-' s
  let (d, s) ← looseField s
  let s ← expect 'T' s
  let (h, s) ← looseField s
  let s ← expect ':' s
  let (mi, s) ← looseField s
  let s ← expect ':' s
  let (sec, s) ← looseField s
  let (n, s) ← fraction s
  let t ← make y mo d h mi sec n
  if s.isEmpty then some t else none

def ofText? (s : List Char) : Option Moment := (ofStrict? s).or (ofLoose? s)

end Moment

end OfficeSchema
