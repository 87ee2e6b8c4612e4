import OfficeSchema.Pattern.Property
import OfficeSchema.Pattern.Regex
import OfficeSchema.Value.Numeral

namespace OfficeSchema.Pattern

structure Flags where
  caseless : Bool
  multiline : Bool
  dotAll : Bool
  unicode : Bool
  crlf : Bool
  verbose : Bool
  deriving DecidableEq, Repr

def Flags.initial : Flags := ⟨false, false, false, true, false, false⟩

def Flags.alphabet (f : Flags) : Alphabet := if f.unicode then .characters else .bytes

def Flags.set (f : Flags) (letter : Char) (on : Bool) : Flags :=
  match letter with
  | 'i' => { f with caseless := on }
  | 'm' => { f with multiline := on }
  | 's' => { f with dotAll := on }
  | 'u' => { f with unicode := on }
  | 'R' => { f with crlf := on }
  | 'x' => { f with verbose := on }
  | _ => f

structure Setting where
  flags : Flags
  names : List (List Char)
  deriving Repr

/-- A part of an expression; one that only sets flags cannot be repeated. -/
structure Atom where
  regex : Regex
  depth : Nat
  repeatable : Bool
  deriving Repr

def nestLimit : Nat := 250

abbrev Reading (α : Type) := StateT (List Char) Option α

namespace Reading

variable {α : Type}

def ofOption (o : Option α) : Reading α := fun s => o.map (·, s)

def next : Reading Char
  | [] => none
  | c :: r => some (c, r)

def ahead (test : List Char → Bool) : Reading Bool := fun s => some (test s, s)

def attempt (g : Reading α) : Reading (Option α) := fun s =>
  match g s with
  | some (x, r) => some (some x, r)
  | none => some (none, s)

def sees (c : Char) : Reading Bool
  | [] => some (false, [])
  | d :: r => if d == c then some (true, r) else some (false, d :: r)

def leading (test : Char → Bool) : Reading (List Char) := fun s =>
  some (s.takeWhile test, s.dropWhile test)

def upTo (sep : Char) : Reading (List Char) := Text.cutAt sep

def dropVerbose (inComment : Bool) : List Char → List Char
  | [] => []
  | c :: r =>
      if inComment then dropVerbose (c != '\n') r
      else if Text.isBlank c then dropVerbose false r
      else if c == '#' then dropVerbose true r
      else c :: r

def afterBlanks (f : Flags) (s : List Char) : List Char :=
  if f.verbose then dropVerbose false s else s

def skip (f : Flags) : Reading Unit := fun s => some ((), afterBlanks f s)

def scalar? (n : Nat) : Option Char := if n.isValidChar then some (Char.ofNat n) else none

def numbered? (ds : List Char) : Option Char :=
  if ds.isEmpty then none else (Numeral.inBase? 16 0 ds).bind scalar?

def hexDigits (f : Flags) : Nat → List Char → Reading (List Char)
  | 0, acc => pure acc.reverse
  | n + 1, acc => do
      let c ← next
      if (Numeral.hexDigit? c).isSome then
        skip f
        hexDigits f n (c :: acc)
      else failure

def untilBrace (verbose inComment : Bool) : Reading (List Char)
  | [] => none
  | c :: r =>
      if inComment then untilBrace verbose (c != '\n') r
      else if verbose && Text.isBlank c then untilBrace verbose false r
      else if verbose && c == '#' then untilBrace verbose true r
      else if c == '\x7d' then some ([], r)
      else (untilBrace verbose false r).map (fun p => (c :: p.1, p.2))

inductive Sign where
  | char (c : Char)
  | byte (c : Char)
  | set (s : CharSet)
  | look (l : Look)
  deriving Repr

/-- A character by its number, behind the letter that gives the number of digits; `fixed` is what a
number without braces stands for. -/
def hexNumber (f : Flags) (digits : Nat) (fixed : Char → Sign) : Reading Sign := do
  skip f
  if ← sees '\x7b' then
    let ds ← untilBrace f.verbose false
    Sign.char <$> ofOption (numbered? ds)
  else
    let ds ← hexDigits f digits []
    fixed <$> ofOption (numbered? ds)

def cutPair (a b : Char) : List Char → Option (List Char × List Char)
  | [] => none
  | [_] => none
  | c :: d :: r =>
      if c == a && d == b then some ([], r)
      else (cutPair a b (d :: r)).map (fun p => (c :: p.1, p.2))

def propertySet (name : List Char) : Option (CharSet × Bool) :=
  match cutPair '!' '=' name with
  | some (p, v) => (CharSet.valued? p v).map (fun s => (s, true))
  | none =>
      match Text.cutAt ':' name with
      | some (p, v) => (CharSet.valued? p v).map (fun s => (s, false))
      | none =>
          match Text.cutAt '=' name with
          | some (p, v) => (CharSet.valued? p v).map (fun s => (s, false))
          | none => (CharSet.named? name).map (fun s => (s, false))

def propertyName (f : Flags) : Reading (List Char) := do
  skip f
  if ← sees '\x7b' then untilBrace f.verbose false
  else
    let c ← next
    if c == '\\' then failure
    else
      skip f
      pure [c]

def property (f : Flags) (negated : Bool) : Reading Sign :=
  if !f.unicode then failure
  else do
    let name ← propertyName f
    let (set, inner) ← ofOption (propertySet name)
    pure (.set ((CharSet.foldedIf f.caseless .characters set).complIf (negated != inner)))

def classOf (a : Alphabet) (letter : Char) : CharSet :=
  match letter with
  | 'd' => CharSet.digits a
  | 's' => CharSet.blanks a
  | _ => CharSet.wordChars a

def isProtected (c : Char) : Bool :=
  c.toNat < 128 && !c.isAlphanum && c != '<' && c != '>'

def boundaryNamed? (a : Alphabet) : String → Option Look
  | "start" => some (.wordStart a)
  | "end" => some (.wordEnd a)
  | "start-half" => some (.wordStartHalf a)
  | "end-half" => some (.wordEndHalf a)
  | _ => none

def isBoundaryNameChar (c : Char) : Bool := c.isAlpha || c == '-'

def opensName (f : Flags) : List Char → Bool
  | '\x7b' :: r => (afterBlanks f r).head?.any isBoundaryNameChar
  | _ => false

/-- A word boundary; braces behind it that hold no name belong to a repetition. -/
def boundary (f : Flags) : Reading Sign := do
  if ← ahead (opensName f) then
    let _ ← next
    let name ← untilBrace f.verbose false
    Sign.look <$> ofOption (boundaryNamed? f.alphabet (String.ofList name))
  else pure (.look (.boundary f.alphabet))

def plainEscape (f : Flags) (c : Char) : Option Sign :=
  if c == 'd' || c == 's' || c == 'w' then some (.set (classOf f.alphabet c))
  else if c == 'D' || c == 'S' || c == 'W' then
    if f.unicode then some (.set (CharSet.compl (classOf f.alphabet c.toLower))) else none
  else if isProtected c then some (.char c)
  else if c == 'a' then some (.char '\x07')
  else if c == 'f' then some (.char '\x0c')
  else if c == 't' then some (.char '\t')
  else if c == 'n' then some (.char '\n')
  else if c == 'r' then some (.char '\r')
  else if c == 'v' then some (.char '\x0b')
  else if c == 'A' then some (.look .textStart)
  else if c == 'z' then some (.look .textEnd)
  else if c == 'B' then some (.look (.noBoundary f.alphabet))
  else if c == '<' then some (.look (.wordStart f.alphabet))
  else if c == '>' then some (.look (.wordEnd f.alphabet))
  else none

def escape (f : Flags) : Reading Sign := do
  let c ← next
  if c == 'x' then hexNumber f 2 .byte
  else if c == 'u' then hexNumber f 4 .char
  else if c == 'U' then hexNumber f 8 .char
  else if c == 'p' || c == 'P' then property f (c == 'P')
  else if c == 'b' then boundary f
  else ofOption (plainEscape f c)

def literal (f : Flags) (c : Char) : Regex :=
  if f.unicode || c.toNat < 128 then
    .one (CharSet.foldedIf f.caseless f.alphabet (.single c))
  else .one (.single c)

def Sign.regex? (f : Flags) : Sign → Option Regex
  | .char c => some (literal f c)
  | .byte c => if f.unicode || c.toNat < 128 then some (literal f c) else none
  | .set s => some (.one s)
  | .look l => some (.look l)

def Sign.bracketChar? (f : Flags) : Sign → Option Char
  | .char c | .byte c => if f.unicode || c.toNat < 128 then some c else none
  | _ => none

def Sign.bracketSet? (f : Flags) : Sign → Option CharSet
  | .set s => some s
  | .look _ => none
  | u => (u.bracketChar? f).map .single

def className : Reading CharSet := do
  let name ← upTo ':'
  if ← sees ']' then ofOption (CharSet.ofClassName? (String.ofList name)) else failure

def namedClass (f : Flags) : Reading CharSet := do
  if ← sees ':' then
    let negated ← sees '^'
    let set ← className
    pure ((CharSet.foldedIf f.caseless f.alphabet set).complIf negated)
  else failure

inductive SetOp where
  | inter
  | diff
  | symDiff
  deriving DecidableEq, Repr

def SetOp.apply : SetOp → CharSet → CharSet → CharSet
  | .inter, a, b => .inter a b
  | .diff, a, b => .diff a b
  | .symDiff, a, b => .symDiff a b

def setOp : Reading SetOp
  | '&' :: '&' :: r => some (.inter, r)
  | '-' :: '-' :: r => some (.diff, r)
  | '~' :: '~' :: r => some (.symDiff, r)
  | _ => none

def bracketSign (f : Flags) : Reading Sign := do
  let c ← next
  if c == '\\' then escape f else pure (.char c)

def opensRange (f : Flags) : List Char → Bool
  | '-' :: r => (afterBlanks f r).head? != some ']' && (afterBlanks f r).head? != some '-'
  | _ => false

def rangeSet? (f : Flags) (a b : Sign) : Option CharSet := do
  let x ← a.bracketChar? f
  let y ← b.bracketChar? f
  if x ≤ y then some (.span x y) else none

def bracketItem (f : Flags) : Reading CharSet := do
  let a ← bracketSign f
  skip f
  if ← ahead (opensRange f) then
    let _ ← next
    skip f
    let b ← bracketSign f
    ofOption (rangeSet? f a b)
  else ofOption (a.bracketSet? f)

structure Nested where
  set : CharSet
  depth : Nat
  deriving Repr

structure Operand where
  items : Nested
  count : Nat
  deriving Repr

def Operand.none : Operand := ⟨⟨.empty, 0⟩, 0⟩

def Operand.add (o : Operand) (item : Nested) : Operand :=
  ⟨⟨.union o.items.set item.set, max o.items.depth item.depth⟩, o.count + 1⟩

/-- An operand as a whole; two items and more are one level deeper than a single one. -/
def Operand.nested (o : Operand) : Nested :=
  if o.count ≤ 1 then o.items else { o.items with depth := o.items.depth + 1 }

def bracketStart (f : Flags) (acc : Operand) (atStart : Bool) : Reading Operand
  | [] => some (acc, [])
  | '-' :: r => bracketStart f (acc.add ⟨.single '-', 0⟩) false r
  | ']' :: r => if atStart then some (acc.add ⟨.single ']', 0⟩, r) else some (acc, ']' :: r)
  | c :: r =>
      if f.verbose && Text.isBlank c then bracketStart f acc atStart r else some (acc, c :: r)

def joinOp (f : Flags) (left : Option (SetOp × Nested)) (right : Nested) : Nested :=
  match left with
  | none => right
  | some (op, l) =>
      ⟨op.apply (CharSet.foldedIf f.caseless f.alphabet l.set)
        (CharSet.foldedIf f.caseless f.alphabet right.set), max l.depth right.depth + 1⟩

def closeSet (f : Flags) (negated : Bool) (s : CharSet) : Option CharSet :=
  let set := (CharSet.foldedIf f.caseless f.alphabet s).complIf negated
  if f.unicode || set.isAscii then some set else none

def negation (f : Flags) : Reading Bool := do
  if ← sees '^' then
    skip f
    pure true
  else pure false

mutual

def brackets : Nat → Flags → Reading Nested
  | 0, _ => failure
  | n + 1, f => do
      skip f
      let negated ← negation f
      let start ← bracketStart f .none true
      let inside ← bracketRest n f none start
      let closed ← ofOption (closeSet f negated inside.set)
      pure ⟨closed, inside.depth + 1⟩

/-- The rest of a set: `left` waits for its right operand, `acc` is the operand so far. -/
def bracketRest : Nat → Flags → Option (SetOp × Nested) → Operand → Reading Nested
  | 0, _, _, _ => failure
  | n + 1, f, left, acc => do
      skip f
      if ← sees ']' then pure (joinOp f left acc.nested)
      else if ← sees '[' then
        match ← attempt (namedClass f) with
        | some set => bracketRest n f left (acc.add ⟨set, 0⟩)
        | none =>
            let inner ← brackets n f
            bracketRest n f left (acc.add inner)
      else
        match ← attempt setOp with
        | some op => bracketRest n f (some (op, joinOp f left acc.nested)) .none
        | none =>
            let set ← bracketItem f
            bracketRest n f left (acc.add ⟨set, 0⟩)

end

def digits (verbose inComment : Bool) : List Char → List Char × List Char
  | [] => ([], [])
  | c :: r =>
      if inComment then digits verbose (c != '\n') r
      else if c.isDigit then
        let rest := digits verbose false r
        (c :: rest.1, rest.2)
      else if verbose && Text.isBlank c then digits verbose false r
      else if verbose && c == '#' then digits verbose true r
      else ([], c :: r)

def count (f : Flags) : Reading Nat := do
  let _ ← leading Text.isBlank
  let digits ← fun s => some (digits f.verbose false s)
  let _ ← leading Text.isBlank
  let value := digits.foldl (fun n c => 10 * n + (c.toNat - 48)) 0
  if digits.isEmpty || 4294967295 < value then failure else pure value

def bounds (f : Flags) : Reading (Nat × Option Nat) := do
  skip f
  let min ← count f
  if ← sees '\x7d' then pure (min, some min)
  else if ← sees ',' then
    skip f
    if ← sees '\x7d' then pure (min, none)
    else
      let max ← count f
      if ← sees '\x7d' then
        if min ≤ max then pure (min, some max) else failure
      else failure
  else failure

def repeatedAtom (a : Atom) (min : Nat) (max : Option Nat) : Atom :=
  ⟨.repeated a.regex min max, a.depth + 1, true⟩

def repeatLast (items : List Atom) (min : Nat) (max : Option Nat) : Option (List Atom) :=
  match items with
  | a :: rest => if a.repeatable then some (repeatedAtom a min max :: rest) else none
  | [] => none

def flagRun : Flags → List Char → Bool → Reading (Flags × Bool × Char)
  | _, _, _, [] => none
  | f, seen, negated, c :: r =>
      if c == ':' || c == ')' then
        if seen.head? == some '-' then none else some ((f, seen.isEmpty, c), r)
      else if seen.contains c then none
      else if c == '-' then flagRun f (c :: seen) true r
      else if ['i', 'm', 's', 'U', 'u', 'R', 'x'].contains c then
        flagRun (f.set c (!negated)) (c :: seen) negated r
      else none

def isLetter (c : Char) : Bool := Text.Range.holds Text.alphabeticRanges c.toNat

def isNumeric (c : Char) : Bool :=
  Text.Category.decimalNumber.contains c || Text.Category.letterNumber.contains c ||
    Text.Category.otherNumber.contains c

def isGroupName : List Char → Bool
  | [] => false
  | c :: r => (c == '_' || isLetter c) && r.all (fun d =>
      d == '_' || d == '.' || d == '[' || d == ']' || isLetter d || isNumeric d)

inductive Opening where
  | inner (kept : Bool) (s : Setting)
  | setting (f : Flags)

def namedGroup (set : Setting) : Reading Opening := do
  let name ← upTo '>'
  if isGroupName name && !set.names.contains name then
    pure (.inner true { set with names := name :: set.names })
  else failure

def flagged (set : Setting) : Flags × Bool × Char → Reading Opening
  | (f, blank, sign) =>
      if sign == ')' then (if blank then failure else pure (.setting f))
      else pure (.inner false { set with flags := f })

def opening (set : Setting) : Reading Opening := do
  skip set.flags
  if ← sees '?' then
    if ← sees 'P' then
      if ← sees '<' then namedGroup set else failure
    else if ← sees '<' then namedGroup set
    else
      let run ← flagRun set.flags [] false
      flagged set run
  else pure (.inner true set)

def groupedAtom (kept : Bool) (a : Atom) : Atom :=
  ⟨if kept then .group a.regex else a.regex, a.depth + 1, true⟩

def joinSeq : List Atom → Atom
  | [] => ⟨.empty, 0, false⟩
  | [a] => a
  | a :: b :: items =>
      (b :: items).foldl (fun acc x => ⟨.seq x.regex acc.regex, max acc.depth (x.depth + 1), true⟩)
        ⟨a.regex, a.depth + 1, true⟩

def joinAlt : List Atom → Atom
  | [] => ⟨.empty, 0, false⟩
  | [a] => a
  | a :: b :: items =>
      (b :: items).foldl (fun acc x => ⟨.alt x.regex acc.regex, max acc.depth (x.depth + 1), true⟩)
        ⟨a.regex, a.depth + 1, true⟩

def dot (f : Flags) : Option Regex :=
  if !f.unicode then none
  else if f.dotAll then some (.one (.compl .empty))
  else if f.crlf then some (.one (.compl (.ranges [⟨10, 10⟩, ⟨13, 13⟩])))
  else some (.one (.compl (.single '\n')))

def caret (f : Flags) : Look :=
  if f.multiline then (if f.crlf then .lineStartCr else .lineStart) else .textStart

def dollar (f : Flags) : Look :=
  if f.multiline then (if f.crlf then .lineEndCr else .lineEnd) else .textEnd

def again (items : List Atom) (min : Nat) (max : Option Nat) : Reading (List Atom) := do
  let items ← ofOption (repeatLast items min max)
  let _ ← sees '?'
  pure items

def part (n : Nat) (f : Flags) (items : List Atom) : Char → Reading (List Atom)
  | '?' => again items 0 (some 1)
  | '*' => again items 0 none
  | '+' => again items 1 none
  | '\x7b' => do
      let (min, max) ← bounds f
      skip f
      again items min max
  | '[' => do
      let inside ← brackets n f
      pure (⟨.one inside.set, inside.depth, true⟩ :: items)
  | '.' => do
      let d ← ofOption (dot f)
      pure (⟨d, 0, true⟩ :: items)
  | '^' => pure (⟨.look (caret f), 0, true⟩ :: items)
  | '$' => pure (⟨.look (dollar f), 0, true⟩ :: items)
  | '\\' => do
      let u ← escape f
      let x ← ofOption (u.regex? f)
      pure (⟨x, 0, true⟩ :: items)
  | c => pure (⟨literal f c, 0, true⟩ :: items)

def closes : List Char → Bool
  | [] => true
  | c :: _ => c == ')'

def close : Reading Unit := do
  let c ← next
  if c == ')' then pure () else failure

/-- Reads branches up to the end of the text or an unmatched closing parenthesis. `branches` are
complete and `items` are the parts of the branch at hand, both the last one first. -/
def branches : Nat → List Atom → List Atom → Setting → Reading (Atom × Setting)
  | 0, _, _, _ => failure
  | n + 1, done, items, set => do
      skip set.flags
      if ← ahead closes then pure (joinAlt (joinSeq items :: done), set)
      else
        let c ← next
        if c == '|' then branches n (joinSeq items :: done) [] set
        else if c == '(' then
          match ← opening set with
          | .setting f => branches n done (⟨.empty, 0, false⟩ :: items) { set with flags := f }
          | .inner kept inside =>
              let (a, after) ← branches n [] [] inside
              close
              branches n done (groupedAtom kept a :: items) { set with names := after.names }
        else
          let items ← part n set.flags items c
          branches n done items set

end Reading

/-- Reads an expression from the start of a text up to its end, or up to a closing parenthesis that
nothing opens, with what is left. -/
def Atom.read? (s : List Char) : Option (Atom × List Char) :=
  (Reading.branches (2 * s.length + 2) [] [] ⟨.initial, []⟩ s).map fun p => (p.1.1, p.2)

def Atom.ofText? (s : List Char) : Option Atom :=
  match Atom.read? s with
  | some (a, []) => some a
  | _ => none

def Atom.isSmall (a : Atom) : Bool := a.depth ≤ nestLimit && a.regex.size ≤ Regex.sizeLimit

def Regex.ofText? (s : List Char) : Option Regex :=
  ((Atom.ofText? s).filter Atom.isSmall).map Atom.regex

end OfficeSchema.Pattern
