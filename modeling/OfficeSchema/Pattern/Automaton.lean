import OfficeSchema.Pattern.CharSet

/-!
How many states a set of characters takes in an automaton that reads bytes. Read forwards,
characters with the same bytes at the end share the states for them; read backwards, those with the
same bytes at the start do.
-/

namespace OfficeSchema.Pattern

open Text

inductive Direction where
  | forward
  | backward
  deriving DecidableEq, Repr

def stateSize : Nat := 32

def rangeSize : Nat := 8

def linkSize : Nat := 4

abbrev Sequence := List Range

/-- Sequences for the numbers from `first` to `last` with `n` bytes that hold six bits each behind
one that adds the rest to its lead. Numbers that differ in one place only, apart from places that
take all values, are in one sequence. -/
def sequences : Nat → Nat → Nat → Nat → List Sequence
  | 0, lead, first, last => [[⟨lead + first, lead + last⟩]]
  | n + 1, lead, first, last =>
      let m := 64 ^ (n + 1)
      let under (a r s : Nat) : List Sequence :=
        (sequences n 0x80 r s).map (Range.single (lead + a) :: ·)
      let a := first / m
      let b := last / m
      if a = b then under a (first % m) (last % m)
      else
        let low := if first % m = 0 then a else a + 1
        let high := if last % m = m - 1 then b + 1 else b
        (if low = a then [] else under a (first % m) (m - 1)) ++
          (if low < high then
            [⟨lead + low, lead + high - 1⟩ :: List.replicate (n + 1) ⟨0x80, 0xBF⟩]
          else []) ++
          (if high = b then under b 0 (last % m) else [])

/-- Code points by the number of bytes behind the first one, and the lead of that; surrogates are
left out. -/
def planes : List (Range × Nat × Nat) :=
  [(⟨0, 0x7F⟩, 0, 0), (⟨0x80, 0x7FF⟩, 1, 0xC0), (⟨0x800, 0xD7FF⟩, 2, 0xE0),
    (⟨0xE000, 0xFFFF⟩, 2, 0xE0), (⟨0x10000, 0x10FFFF⟩, 3, 0xF0)]

def sequencesOf (r : Range) : List Sequence :=
  planes.flatMap fun (p, n, lead) =>
    let first := max r.first p.first
    let last := min r.last p.last
    if first ≤ last then sequences n lead first last else []

def byFirst : List Sequence → List (Range × List Sequence)
  | [] => []
  | [] :: qs => byFirst qs
  | (r :: q) :: qs =>
      match byFirst qs with
      | [] => [(r, [q])]
      | (s, ss) :: bs => if r = s then (r, q :: ss) :: bs else (r, [q]) :: (s, ss) :: bs

def nodes : Nat → List Sequence → List (List Sequence)
  | 0, _ => []
  | n + 1, qs =>
      if qs.all List.isEmpty then [] else qs :: (byFirst qs).flatMap (fun b => nodes n b.2)

def manyBytes (d : Direction) (parts : List Range) (qs : List Sequence) : Nat :=
  if parts.all (fun r => r.last < 0x80) then 2 * stateSize + parts.length * rangeSize
  else match d with
    | .forward =>
        (nodes 4 qs).eraseDups.foldl
          (fun size q => size + stateSize + (byFirst q).length * rangeSize) stateSize
    | .backward =>
        (nodes 4 qs).foldl (fun size q => size + (byFirst q).length * stateSize)
          (2 * stateSize + qs.length * linkSize)

/-- Bytes for the states of a set; a character alone has one for each of its bytes. -/
def CharSet.stateBytes (d : Direction) (s : CharSet) : Nat :=
  let parts := s.parts
  let qs := parts.flatMap sequencesOf
  match parts with
  | [⟨n, m⟩] => if n = m then (Char.ofNat n).utf8Size * stateSize else manyBytes d parts qs
  | _ => manyBytes d parts qs

end OfficeSchema.Pattern
