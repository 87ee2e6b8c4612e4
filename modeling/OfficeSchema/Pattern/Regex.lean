import OfficeSchema.Pattern.Automaton

/-!
Regular expressions and what they match. An expression takes a set of positions in a text to the
set of positions where a match that starts there may end; a text is matched if some match exists.
-/

namespace OfficeSchema.Pattern

inductive Look where
  | textStart
  | textEnd
  | lineStart
  | lineEnd
  | lineStartCr
  | lineEndCr
  | boundary (alphabet : Alphabet)
  | noBoundary (alphabet : Alphabet)
  | wordStart (alphabet : Alphabet)
  | wordEnd (alphabet : Alphabet)
  | wordStartHalf (alphabet : Alphabet)
  | wordEndHalf (alphabet : Alphabet)
  deriving DecidableEq, Repr

def isWordChar (alphabet : Alphabet) : Option Char → Bool
  | none => false
  | some c => (CharSet.wordChars alphabet).mem c

def Look.holds (before after : Option Char) : Look → Bool
  | .textStart => before.isNone
  | .textEnd => after.isNone
  | .lineStart => before.isNone || before == some '\n'
  | .lineEnd => after.isNone || after == some '\n'
  | .lineStartCr =>
      before.isNone || before == some '\n' || (before == some '\r' && after != some '\n')
  | .lineEndCr =>
      after.isNone || after == some '\r' || (after == some '\n' && before != some '\r')
  | .boundary a => isWordChar a before != isWordChar a after
  | .noBoundary a => isWordChar a before == isWordChar a after
  | .wordStart a => !isWordChar a before && isWordChar a after
  | .wordEnd a => isWordChar a before && !isWordChar a after
  | .wordStartHalf a => !isWordChar a before
  | .wordEndHalf a => !isWordChar a after

inductive Regex where
  | empty
  | one (s : CharSet)
  | look (l : Look)
  | group (r : Regex)
  | seq (a b : Regex)
  | alt (a b : Regex)
  | repeated (r : Regex) (min : Nat) (max : Option Nat)
  deriving DecidableEq, Repr

namespace Regex

def consumes : Regex → Bool
  | .empty | .look _ => false
  | .one _ => true
  | .group r => r.consumes
  | .seq a b => a.consumes || b.consumes
  | .alt a b => a.consumes && b.consumes
  | .repeated r min _ => 0 < min && r.consumes

def isHollow : Regex → Bool
  | .empty | .look _ => true
  | .one _ => false
  | .group r => r.isHollow
  | .seq a b | .alt a b => a.isHollow && b.isHollow
  | .repeated r _ max => max == some 0 || r.isHollow

def set? : Regex → Option CharSet
  | .one s => some s
  | .alt a b => a.set?.bind (fun s => b.set?.map (.union s))
  | _ => none

/-- Bytes for an expression that takes `n` of them where it stands for itself: an empty one needs a
state only there. -/
def alone (n : Nat) : Nat := max n stateSize

def branchSize (r : Regex) (n : Nat) : Nat :=
  match r with
  | .alt _ _ => if r.set?.isSome then alone n + linkSize else n - 2 * stateSize
  | _ => alone n + linkSize

/-- Bytes for the copies that a repetition makes of an expression that takes `n` bytes: as many as
there must be, and one behind a branch for every further one. -/
def repeatedSize (consumes : Bool) (n min : Nat) (max : Option Nat) : Nat :=
  let branch := stateSize + 2 * linkSize
  let copies := if min = 0 then stateSize else min * alone n
  match max with
  | none =>
      if min = 0 then
        if consumes then n + branch else alone n + 2 * branch + stateSize
      else copies + branch
  | some m =>
      if m = 0 then 0
      else if m = 1 ∧ min = 1 then n
      else if m = 1 then alone n + branch + stateSize
      else if min = m then copies
      else copies + stateSize + (m - min) * (alone n + branch)

def stateBytes (d : Direction) : Regex → Nat
  | .empty => 0
  | .one s => s.stateBytes d
  | .look _ => stateSize
  | .group r =>
      match d with
      | .forward => alone (r.stateBytes d) + 2 * stateSize
      | .backward => alone (r.stateBytes d)
  | .seq a b => a.stateBytes d + b.stateBytes d
  | .alt a b =>
      match (Regex.alt a b).set? with
      | some s => s.stateBytes d
      | none => 2 * stateSize + branchSize a (a.stateBytes d) + branchSize b (b.stateBytes d)
  | .repeated r low high =>
      if r.isHollow then
        repeatedSize false (r.stateBytes d) (min low 1) (some (min (high.getD 1) 1))
      else repeatedSize r.consumes (r.stateBytes d) low high

/-- Bytes for the larger one of the automata that read an expression forwards and backwards, with
the states for its start and end and, forwards, for the whole match. -/
def size (r : Regex) : Nat :=
  max (r.stateBytes .forward + 4 * stateSize) (r.stateBytes .backward + 2 * stateSize)

def sizeLimit : Nat := 10485760

def mergeAsc (ps qs : List Nat) : List Nat :=
  match ps, qs with
  | [], qs => qs
  | p :: ps, [] => p :: ps
  | p :: ps, q :: qs =>
      if p < q then p :: mergeAsc ps (q :: qs)
      else if q < p then q :: mergeAsc (p :: ps) qs
      else p :: mergeAsc ps qs
  termination_by ps.length + qs.length

def advance (step : List Nat → List Nat) : Nat → List Nat → List Nat
  | 0, ps => ps
  | n + 1, ps =>
      let next := step ps
      if next == ps then ps else advance step n next

def collect (step : List Nat → List Nat) : Nat → List Nat → List Nat
  | 0, ps => ps
  | n + 1, ps =>
      let next := mergeAsc ps (step ps)
      if next == ps then ps else collect step n next

def ends (t : Array Char) : Regex → List Nat → List Nat
  | .empty, ps => ps
  | .one s, ps =>
      ps.filterMap (fun p =>
        match t[p]? with
        | some c => if s.mem c then some (p + 1) else none
        | none => none)
  | .look l, ps => ps.filter (fun p => l.holds (if p = 0 then none else t[p - 1]?) t[p]?)
  | .group r, ps => r.ends t ps
  | .seq a b, ps => b.ends t (a.ends t ps)
  | .alt a b, ps => mergeAsc (a.ends t ps) (b.ends t ps)
  | .repeated r min max, ps =>
      let start := advance (r.ends t) min ps
      match max with
      | none => collect (r.ends t) (t.size + 1) start
      | some m => collect (r.ends t) (m - min) start

def occursIn (r : Regex) (s : List Char) : Bool :=
  let t := s.toArray
  !(r.ends t (List.range (t.size + 1))).isEmpty

end Regex

end OfficeSchema.Pattern
