import OfficeSchema.Text.Blank
import OfficeSchema.Text.Category
import OfficeSchema.Text.Casing

namespace OfficeSchema.Pattern

open Text

inductive Alphabet where
  | characters
  | bytes
  deriving DecidableEq, Repr

def Alphabet.folds : Alphabet → List Shift
  | .characters => foldShifts
  | .bytes => [⟨0x41, 0x5A, 1, 32⟩]

def Alphabet.variants : Alphabet → Char → List Char
  | .characters, c => caseVariants c
  | .bytes, c => [c, c.toLower, c.toUpper]

inductive CharSet where
  | ranges (rs : List Range)
  | union (a b : CharSet)
  | inter (a b : CharSet)
  | diff (a b : CharSet)
  | symDiff (a b : CharSet)
  | compl (a : CharSet)
  | folded (alphabet : Alphabet) (a : CharSet)
  deriving DecidableEq, Repr

namespace CharSet

def mem : CharSet → Char → Bool
  | .ranges rs, c => Range.holds rs c.toNat
  | .union a b, c => a.mem c || b.mem c
  | .inter a b, c => a.mem c && b.mem c
  | .diff a b, c => a.mem c && !b.mem c
  | .symDiff a b, c => a.mem c != b.mem c
  | .compl a, c => !a.mem c
  | .folded alphabet a, c => (alphabet.variants c).any a.mem

def parts : CharSet → List Range
  | .ranges rs => Range.join rs []
  | .union a b => Range.join a.parts b.parts
  | .inter a b => Range.meet a.parts b.parts
  | .diff a b => Range.meet a.parts (Range.compl b.parts)
  | .symDiff a b =>
      Range.join (Range.meet a.parts (Range.compl b.parts))
        (Range.meet b.parts (Range.compl a.parts))
  | .compl a => Range.compl a.parts
  | .folded alphabet a => Shift.close alphabet.folds a.parts

def empty : CharSet := .ranges []

def span (a b : Char) : CharSet := .ranges [⟨a.toNat, b.toNat⟩]

def single (c : Char) : CharSet := span c c

def foldedIf (caseless : Bool) (alphabet : Alphabet) (s : CharSet) : CharSet :=
  if caseless then .folded alphabet s else s

def complIf (negated : Bool) (s : CharSet) : CharSet := if negated then .compl s else s

def isAscii (s : CharSet) : Bool :=
  (List.range 128).all (fun n => !s.mem (Char.ofNat (n + 128)))

def ofCategories (gs : List Category) : CharSet := .ranges (gs.flatMap Category.ranges)

def digits : Alphabet → CharSet
  | .characters => ofCategories [.decimalNumber]
  | .bytes => span '0' '9'

def blanks : Alphabet → CharSet
  | .characters =>
      .ranges [⟨9, 13⟩, ⟨0x20, 0x20⟩, ⟨0x85, 0x85⟩, ⟨0xA0, 0xA0⟩, ⟨0x1680, 0x1680⟩,
        ⟨0x2000, 0x200A⟩, ⟨0x2028, 0x2029⟩, ⟨0x202F, 0x202F⟩, ⟨0x205F, 0x205F⟩,
        ⟨0x3000, 0x3000⟩]
  | .bytes => .ranges [⟨9, 13⟩, ⟨0x20, 0x20⟩]

def alnum : CharSet := .ranges [⟨0x30, 0x39⟩, ⟨0x41, 0x5A⟩, ⟨0x61, 0x7A⟩]

def wordChars : Alphabet → CharSet
  | .characters =>
      .ranges (alphabeticRanges ++
        (Category.marks ++ [Category.decimalNumber, Category.connectorPunctuation]).flatMap
          Category.ranges ++
        [⟨0x200C, 0x200D⟩])
  | .bytes => .union alnum (single '_')

def ofClassName? : String → Option CharSet
  | "alnum" => some alnum
  | "alpha" => some (.ranges [⟨0x41, 0x5A⟩, ⟨0x61, 0x7A⟩])
  | "ascii" => some (.ranges [⟨0, 0x7F⟩])
  | "blank" => some (.ranges [⟨9, 9⟩, ⟨0x20, 0x20⟩])
  | "cntrl" => some (.ranges [⟨0, 0x1F⟩, ⟨0x7F, 0x7F⟩])
  | "digit" => some (span '0' '9')
  | "graph" => some (span '!' '~')
  | "lower" => some (span 'a' 'z')
  | "print" => some (span ' ' '~')
  | "punct" => some (.ranges [⟨0x21, 0x2F⟩, ⟨0x3A, 0x40⟩, ⟨0x5B, 0x60⟩, ⟨0x7B, 0x7E⟩])
  | "space" => some (blanks .bytes)
  | "upper" => some (span 'A' 'Z')
  | "word" => some (wordChars .bytes)
  | "xdigit" => some (.ranges [⟨0x30, 0x39⟩, ⟨0x41, 0x46⟩, ⟨0x61, 0x66⟩])
  | _ => none

end CharSet

end OfficeSchema.Pattern
