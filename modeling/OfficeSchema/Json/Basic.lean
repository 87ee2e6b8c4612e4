import OfficeSchema.Value.Numeral

namespace OfficeSchema

inductive Json where
  | null
  | truth (b : Bool)
  | number (literal : String)
  | text (s : Option String)
  | array (items : List Json)
  | object (members : List (Option String × Json))
  deriving Inhabited

namespace Json

def string (s : String) : Json := .text (some s)

def natural (n : Nat) : Json := .number (toString n)

def integer (i : Int) : Json := .number (toString i)

def ofFields (fields : List (String × Json)) : Json :=
  .object (fields.map (fun f => (some f.1, f.2)))

def string? : Json → Option String
  | .text s => s
  | _ => none

def truth? : Json → Option Bool
  | .truth b => some b
  | _ => none

def items? : Json → Option (List Json)
  | .array items => some items
  | _ => none

def natural? (bound : Nat) : Json → Option Nat
  | .number literal => (Numeral.nat? literal.toList).filter (fun n => n ≤ bound)
  | _ => none

def all? {α : Type} (view : Json → Option α) (j : Json) : Option (List α) :=
  j.items?.bind (fun items => items.mapM view)

/-- Digits of a number, leading zeros aside, and the power of ten that goes with them when a point
stands in front. -/
def scientific (literal : List Char) : List Char × Int :=
  let isMark := fun c => c == 'e' || c == 'E'
  let mantissa := (literal.dropWhile (· == '-')).takeWhile (fun c => !isMark c)
  let exponent := (Numeral.int? ((literal.dropWhile (fun c => !isMark c)).drop 1)).getD 0
  let whole := mantissa.takeWhile Char.isDigit
  let digits := mantissa.filter Char.isDigit
  let significant := digits.dropWhile (· == '0')
  let zeros := digits.length - significant.length
  (significant, (whole.length : Int) - zeros + exponent)

/-- First digits of the largest number of 64 bits with a floating point, and the power of ten that
goes with them. -/
def largestDigits : Nat := 17976931348623157

def largestExponent : Int := 309

def isFinite (literal : String) : Bool :=
  let (digits, exponent) := scientific literal.toList
  let first := (digits ++ List.replicate 17 '0').take 17
  digits.isEmpty || exponent < largestExponent ||
    (exponent == largestExponent && (Numeral.nat? first).any (fun n => n ≤ largestDigits))

mutual

/-- Whether all strings have a text, all numbers are finite, and no more than `room` arrays and
objects stand in each other. -/
def isPlain (room : Nat) : Json → Bool
  | .null | .truth _ => true
  | .number literal => isFinite literal
  | .text s => s.isSome
  | .array items => 0 < room && arePlain (room - 1) items
  | .object members => 0 < room && havePlain (room - 1) members

def arePlain (room : Nat) : List Json → Bool
  | [] => true
  | j :: js => isPlain room j && arePlain room js

def havePlain (room : Nat) : List (Option String × Json) → Bool
  | [] => true
  | (name, j) :: ms => name.isSome && isPlain room j && havePlain room ms

end

def escape? (c : Char) : Option String :=
  if c == '\x22' then some "\\\""
  else if c == '\\' then some "\\\\"
  else if c == '\n' then some "\\n"
  else if c == '\r' then some "\\r"
  else if c == '\t' then some "\\t"
  else if c == '\x08' then some "\\b"
  else if c == '\x0c' then some "\\f"
  else if c.toNat < 32 then
    some ("\\u00" ++ String.ofList
      [Numeral.hexDigit (c.toNat / 16), Numeral.hexDigit (c.toNat % 16)])
  else none

def quoted (s : String) : String :=
  "\"" ++ String.join (s.toList.map (fun c => (escape? c).getD (String.singleton c))) ++ "\""

mutual

def compact : Json → String
  | .null => "null"
  | .truth b => if b then "true" else "false"
  | .number literal => literal
  | .text s => quoted (s.getD "")
  | .array items => "[" ++ Text.sepBy "," (compactItems items) ++ "]"
  | .object members => "\x7b" ++ Text.sepBy "," (compactMembers members) ++ "\x7d"

def compactItems : List Json → List String
  | [] => []
  | j :: js => compact j :: compactItems js

def compactMembers : List (Option String × Json) → List String
  | [] => []
  | (name, j) :: ms => (quoted (name.getD "") ++ ":" ++ compact j) :: compactMembers ms

end

def newLine (level : Nat) : String := "\n" ++ String.ofList (List.replicate (2 * level) ' ')

mutual

def pretty (level : Nat) : Json → String
  | .null => "null"
  | .truth b => if b then "true" else "false"
  | .number literal => literal
  | .text s => quoted (s.getD "")
  | .array items =>
      if items.isEmpty then "[]"
      else "[" ++ Text.sepBy "," (prettyItems (level + 1) items) ++ newLine level ++ "]"
  | .object members =>
      if members.isEmpty then "\x7b\x7d"
      else "\x7b" ++ Text.sepBy "," (prettyMembers (level + 1) members) ++ newLine level ++ "\x7d"

def prettyItems (level : Nat) : List Json → List String
  | [] => []
  | j :: js => (newLine level ++ pretty level j) :: prettyItems level js

def prettyMembers (level : Nat) : List (Option String × Json) → List String
  | [] => []
  | (name, j) :: ms =>
      (newLine level ++ quoted (name.getD "") ++ ": " ++ pretty level j) :: prettyMembers level ms

end

end Json

end OfficeSchema
