import OfficeSchema.Error

namespace OfficeSchema

def countCap : Nat := 4294967295

def capMul (a b : Nat) : Nat := min (a * b) countCap

theorem capMul_ne_zero {a b : Nat} (ha : a ≠ 0) (hb : b ≠ 0) : capMul a b ≠ 0 := by
  have hab := Nat.mul_ne_zero ha hb
  simp only [capMul, countCap]
  omega

structure Occurs where
  min : Nat
  max : Option Nat
  deriving DecidableEq, Repr, Inhabited

namespace Occurs

def once : Occurs := ⟨1, some 1⟩

def optional : Occurs := ⟨0, some 1⟩

def zeroOrMore : Occurs := ⟨0, none⟩

def oneOrMore : Occurs := ⟨1, none⟩

/-- Bounds as schema data writes them: a maximum of zero stands for any number. -/
def ofSchema (min max : Nat) : Except SchemaFault Occurs :=
  if max = 0 then .ok ⟨min, none⟩
  else if max < min then .error (.minAboveMax min max)
  else .ok ⟨min, some max⟩

def isRepeatable (o : Occurs) : Bool := o.max != some 1 && o.max != some 0

def isMissing (o : Occurs) (count : Nat) : Bool := count < o.min

def isExceeded (o : Occurs) (count : Nat) : Bool :=
  match o.max with
  | none => false
  | some max => max < count

/-- Product of two maxima, where zero times anything is zero. -/
def timesMax : Option Nat → Option Nat → Option Nat
  | some a, some b => some (capMul a b)
  | some 0, none => some 0
  | some (_ + 1), none => none
  | none, some 0 => some 0
  | none, some (_ + 1) => none
  | none, none => none

def times (a b : Occurs) : Occurs := ⟨capMul a.min b.min, timesMax a.max b.max⟩

def product (bs : List Occurs) : Occurs := bs.foldl times once

theorem times_min (a b : Occurs) : (a.times b).min = capMul a.min b.min := rfl

theorem timesMax_zero_left (b : Option Nat) : timesMax (some 0) b = some 0 := by
  cases b <;> simp [timesMax, capMul]

theorem timesMax_zero_right (a : Option Nat) : timesMax a (some 0) = some 0 := by
  cases a <;> simp [timesMax, capMul]

def text (o : Occurs) : String :=
  match o.max with
  | some max => s!"[{o.min}..{max}]"
  | none => s!"[{o.min}..*]"

end Occurs

end OfficeSchema
