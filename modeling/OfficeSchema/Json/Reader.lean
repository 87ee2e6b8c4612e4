import OfficeSchema.Json.Basic

/-!
Reading JSON. The reader goes through the characters once; what it cannot read as one value from
end to end it refuses. Each step down or along a value spends a unit of fuel and at least every
second one consumes a character, so twice the length of the text is enough.
-/

namespace OfficeSchema.Json

namespace Scan

def blanks (s : List Char) : List Char :=
  s.dropWhile (fun c => c == ' ' || c == '\n' || c == '\t' || c == '\r')

def letterEscape? (c : Char) : Option Char :=
  if c == '\x22' || c == '\\' || c == '/' then some c
  else if c == 'b' then some '\x08'
  else if c == 'f' then some '\x0c'
  else if c == 'n' then some '\n'
  else if c == 'r' then some '\r'
  else if c == 't' then some '\t'
  else none

def fourDigits? (a b c d : Char) : Option Nat := Numeral.inBase? 16 0 [a, b, c, d]

def prepend (n : Nat) (p : List Nat × List Char) : List Nat × List Char := (n :: p.1, p.2)

def units : List Char → Option (List Nat × List Char)
  | [] => none
  | '\\' :: 'u' :: a :: b :: c :: d :: r =>
      match fourDigits? a b c d with
      | some n => (units r).map (prepend n)
      | none => none
  | '\\' :: e :: r =>
      match letterEscape? e with
      | some c => (units r).map (prepend c.toNat)
      | none => none
  | c :: r =>
      if c == '\x22' then some ([], r)
      else if c.toNat < 32 || c == '\\' then none
      else (units r).map (prepend c.toNat)

def isFirstHalf (n : Nat) : Bool := 0xD800 ≤ n && n < 0xDC00

def isSecondHalf (n : Nat) : Bool := 0xDC00 ≤ n && n < 0xE000

def whole (first second : Nat) : Char :=
  Char.ofNat (0x10000 + (first - 0xD800) * 0x400 + (second - 0xDC00))

def textOf? : List Nat → Option (List Char)
  | [] => some []
  | [n] => if isFirstHalf n || isSecondHalf n then none else some [Char.ofNat n]
  | n :: m :: r =>
      if isFirstHalf n then
        if isSecondHalf m then (textOf? r).map (whole n m :: ·) else none
      else if isSecondHalf n then none
      else (textOf? (m :: r)).map (Char.ofNat n :: ·)

def text (s : List Char) : Option (Option String × List Char) :=
  (units s).map (fun p => ((textOf? p.1).map String.ofList, p.2))

def digits (s : List Char) : Option (List Char × List Char) :=
  if (s.takeWhile Char.isDigit).isEmpty then none
  else some (s.takeWhile Char.isDigit, s.dropWhile Char.isDigit)

def wholePart : List Char → Option (List Char × List Char)
  | '0' :: r => some (['0'], r)
  | s => digits s

def fraction : List Char → Option (List Char × List Char)
  | '.' :: r => (digits r).map (fun p => ('.' :: p.1, p.2))
  | s => some ([], s)

def isSign (c : Char) : Bool := c == '+' || c == '-'

def exponent : List Char → Option (List Char × List Char)
  | c :: r =>
      if c == 'e' || c == 'E' then
        let sign := (r.take 1).filter isSign
        (digits (r.drop sign.length)).map (fun p => (c :: sign ++ p.1, p.2))
      else some ([], c :: r)
  | [] => some ([], [])

def number (s : List Char) : Option (Json × List Char) := do
  let sign := (s.take 1).filter (· == '-')
  let (a, r) ← wholePart (s.drop sign.length)
  let (b, r) ← fraction r
  let (c, r) ← exponent r
  some (.number (String.ofList (sign ++ a ++ b ++ c)), r)

def word (w : String) (j : Json) (s : List Char) : Option (Json × List Char) :=
  (Text.stripped? w.toList s).map (fun r => (j, r))

mutual

def value : Nat → List Char → Option (Json × List Char)
  | 0, _ => none
  | n + 1, s =>
      match blanks s with
      | [] => none
      | c :: r =>
          if c == '\x7b' then
            match blanks r with
            | '\x7d' :: t => some (.object [], t)
            | t => (members n t).map (fun p => (.object p.1, p.2))
          else if c == '[' then
            match blanks r with
            | ']' :: t => some (.array [], t)
            | t => (items n t).map (fun p => (.array p.1, p.2))
          else if c == '\x22' then (text r).map (fun p => (.text p.1, p.2))
          else if c == 'n' then word "null" .null (c :: r)
          else if c == 't' then word "true" (.truth true) (c :: r)
          else if c == 'f' then word "false" (.truth false) (c :: r)
          else number (c :: r)

def items : Nat → List Char → Option (List Json × List Char)
  | 0, _ => none
  | n + 1, s =>
      match value n s with
      | none => none
      | some (j, r) =>
          match blanks r with
          | ',' :: t => (items n t).map (fun p => (j :: p.1, p.2))
          | ']' :: t => some ([j], t)
          | _ => none

def members : Nat → List Char → Option (List (Option String × Json) × List Char)
  | 0, _ => none
  | n + 1, s =>
      match blanks s with
      | '\x22' :: r =>
          match text r with
          | none => none
          | some (name, r) =>
              match blanks r with
              | ':' :: r =>
                  match value n r with
                  | none => none
                  | some (j, r) =>
                      match blanks r with
                      | ',' :: t => (members n t).map (fun p => ((name, j) :: p.1, p.2))
                      | '\x7d' :: t => some ([(name, j)], t)
                      | _ => none
              | _ => none
      | _ => none

end

end Scan

def ofChars? (s : List Char) : Option Json :=
  match Scan.value (2 * s.length + 2) s with
  | some (j, rest) => if (Scan.blanks rest).isEmpty then some j else none
  | none => none

def ofText? (s : String) : Option Json := ofChars? s.toList

end OfficeSchema.Json
