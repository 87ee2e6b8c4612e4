/-!
Ranges of code points, as the tables of character properties list them: a range is written by its
first and last code point in hexadecimal, with a hyphen between them, or by one code point.
-/

namespace OfficeSchema.Text

structure Range where
  first : Nat
  last : Nat
  deriving DecidableEq, Repr

namespace Range

def covers (r : Range) (n : Nat) : Bool := r.first ≤ n && n ≤ r.last

def holds (rs : List Range) (n : Nat) : Bool := rs.any (fun r => r.covers n)

def single (n : Nat) : Range := ⟨n, n⟩

/-! Ranges that are in order and apart from each other stand for a set in one way only. -/

def insert (r : Range) : List Range → List Range
  | [] => [r]
  | s :: rest =>
      if r.last + 1 < s.first then r :: s :: rest
      else if s.last + 1 < r.first then s :: insert r rest
      else insert ⟨min r.first s.first, max r.last s.last⟩ rest

def join (rs ss : List Range) : List Range := rs.foldr insert ss

def gaps (first : Nat) : List Range → List Range
  | [] => if first ≤ 0x10FFFF then [⟨first, 0x10FFFF⟩] else []
  | r :: rs => (if first < r.first then [⟨first, r.first - 1⟩] else []) ++ gaps (r.last + 1) rs

def compl (rs : List Range) : List Range := gaps 0 rs

def meet (rs ss : List Range) : List Range := compl (join (compl rs) (compl ss))

def digit (c : Char) : Nat := if c ≤ '9' then c.toNat - 48 else c.toNat - 87

/-- Reads ranges; `first` is the start of the range whose hyphen was met. -/
def readFrom (first : Option Nat) (n : Nat) : List Char → List Range
  | [] => [⟨first.getD n, n⟩]
  | ' ' :: r => ⟨first.getD n, n⟩ :: readFrom none 0 r
  | '-' :: r => readFrom (some n) 0 r
  | c :: r => readFrom first (16 * n + digit c) r

def readAll (lines : List String) : List Range :=
  lines.flatMap (fun l => readFrom none 0 l.toList)

end Range

end OfficeSchema.Text
