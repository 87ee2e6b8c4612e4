/-!
Events of a marked-up text: tags, texts and the other pieces between angle brackets, in order. An
end tag must name the last open start tag; a text that breaks off inside a tag ends there. What
cannot be read on ends the events with `malformed`.
-/

namespace OfficeSchema.Markup

structure Tag where
  name : List Char
  body : List Char
  deriving DecidableEq, Repr

inductive Event where
  | opening (t : Tag)
  | single (t : Tag)
  | closing
  | text (s : List Char)
  | verbatim (s : List Char)
  | comment (s : List Char)
  | instruction (s : List Char)
  | malformed
  deriving DecidableEq, Repr

def isSpace (c : Char) : Bool := c == ' ' || c == '\t' || c == '\r' || c == '\n'

/-- The blanks that may stand behind the name in an end tag, a form feed among them. -/
def isTrailing (c : Char) : Bool := isSpace c || c == '\x0c'

def upTo (mark : Char) (s : List Char) : List Char × List Char :=
  (s.takeWhile (fun c => c != mark), (s.dropWhile (fun c => c != mark)).drop 1)

theorem length_upTo (mark : Char) (s : List Char) : (upTo mark s).2.length ≤ s.length := by
  simp only [upTo, List.length_drop]
  exact Nat.le_trans (Nat.sub_le _ _) (List.dropWhile_sublist _).length_le

def upToTagEnd (quote : Option Char) : List Char → List Char × List Char
  | [] => ([], [])
  | c :: r =>
      match quote with
      | none =>
          if c == '>' then ([], r)
          else
            let p := upToTagEnd (if c == '\x27' || c == '\x22' then some c else none) r
            (c :: p.1, p.2)
      | some q =>
          let p := upToTagEnd (if c == q then none else some q) r
          (c :: p.1, p.2)

theorem length_upToTagEnd (quote : Option Char) (s : List Char) :
    (upToTagEnd quote s).2.length ≤ s.length := by
  induction s generalizing quote with
  | nil => simp [upToTagEnd]
  | cons c r ih =>
      cases quote with
      | none =>
          simp only [upToTagEnd, List.length_cons]
          split
          · exact Nat.le_succ _
          · exact Nat.le_succ_of_le (ih _)
      | some q => exact Nat.le_succ_of_le (ih _)

/-- Reads up to an angle bracket before which `ends` holds of what was read, its last character
first. -/
def upToClose (ends : List Char → Bool) (before : List Char) :
    List Char → Option (List Char × List Char)
  | [] => none
  | c :: r =>
      if c == '>' && ends before then some (before.reverse, r)
      else upToClose ends (c :: before) r

theorem length_upToClose {ends : List Char → Bool} {before s : List Char}
    {p : List Char × List Char} (h : upToClose ends before s = some p) :
    p.2.length ≤ s.length := by
  induction s generalizing before with
  | nil => simp [upToClose] at h
  | cons c r ih =>
      simp only [upToClose] at h
      split at h
      · simp only [Option.some.injEq] at h
        rw [← h]
        exact Nat.le_succ _
      · exact Nat.le_succ_of_le (ih h)

def upToBalance (depth : Nat) (before : List Char) : List Char → Option (List Char × List Char)
  | [] => none
  | c :: r =>
      if c == '<' then upToBalance (depth + 1) (c :: before) r
      else if c == '>' then
        match depth with
        | 0 => some (before.reverse, r)
        | d + 1 => upToBalance d (c :: before) r
      else upToBalance depth (c :: before) r

theorem length_upToBalance {depth : Nat} {before s : List Char} {p : List Char × List Char}
    (h : upToBalance depth before s = some p) : p.2.length ≤ s.length := by
  induction s generalizing depth before with
  | nil => simp [upToBalance] at h
  | cons c r ih =>
      simp only [upToBalance] at h
      split at h
      · exact Nat.le_succ_of_le (ih h)
      · split at h
        · cases depth with
          | zero =>
              simp only [Option.some.injEq] at h
              rw [← h]
              exact Nat.le_succ _
          | succ d => exact Nat.le_succ_of_le (ih h)
        · exact Nat.le_succ_of_le (ih h)

def beginsLike (start s : List Char) : Bool := (s.take start.length).map Char.toUpper == start

def endsTwice (c : Char) : List Char → Bool
  | a :: b :: _ => a == c && b == c
  | _ => false

def declaration : List Char → Option (Option Event × List Char)
  | [] => none
  | c :: r =>
      if c == '[' then
        match upToClose (endsTwice ']') [] (c :: r) with
        | some (s, rest) =>
            if beginsLike "[CDATA[".toList s then
              some (some (.verbatim (s.drop 7).dropLast.dropLast), rest)
            else none
        | none => none
      else if c == '-' then
        match upToClose (fun b => endsTwice '-' b && 4 ≤ b.length) [] (c :: r) with
        | some (s, rest) =>
            if s.take 2 == ['-', '-'] then
              some (some (.comment (s.drop 2).dropLast.dropLast), rest)
            else none
        | none => none
      else if c == 'D' || c == 'd' then
        match upToBalance 0 [] (c :: r) with
        | some (s, rest) =>
            if beginsLike "DOCTYPE".toList s && !(s.drop 7).all isSpace then some (none, rest)
            else none
        | none => none
      else none

theorem length_declaration {s : List Char} {p : Option Event × List Char}
    (h : declaration s = some p) : p.2.length ≤ s.length := by
  cases s with
  | nil => simp [declaration] at h
  | cons c r =>
      simp only [declaration] at h
      repeat' split at h
      all_goals first
        | (simp only [Option.some.injEq] at h; rw [← h])
        | simp at h
      · rename_i hs _; exact length_upToClose hs
      · rename_i hs _; exact length_upToClose hs
      · rename_i hs _; exact length_upToBalance hs

def instruction (s : List Char) : Option (Option Event) :=
  if 2 < s.length && s.getLast? == some '?' then
    if 5 < s.length && (s.drop 1).take 3 == "xml".toList && ((s.drop 4).take 1).all isSpace then
      some none
    else some (some (.instruction (s.drop 1).dropLast))
  else none

def endName (s : List Char) : List Char :=
  let name := (s.reverse.dropWhile isTrailing).reverse
  if name.isEmpty then s else name

def tagOf (s : List Char) : Tag :=
  ⟨s.takeWhile (fun c => !isSpace c), s.dropWhile (fun c => !isSpace c)⟩

/-- A piece behind its opening bracket, given the names of the open start tags, the last one first.
It gives the event, if it is one, the names that are open behind it and what follows. -/
def piece (names : List (List Char)) (s : List Char) :
    Option (Option Event × List (List Char) × List Char) :=
  match s with
  | '!' :: r => (declaration r).map (fun p => (p.1, names, p.2))
  | '?' :: _ => (instruction (upTo '>' s).1).map (fun e => (e, names, (upTo '>' s).2))
  | '/' :: r =>
      match names with
      | n :: ns =>
          if endName (upTo '>' r).1 == n then some (some .closing, ns, (upTo '>' r).2) else none
      | [] => none
  | _ =>
      let p := upToTagEnd none s
      if p.1.getLast? == some '/' then some (some (.single (tagOf p.1.dropLast)), names, p.2)
      else
        let t := tagOf p.1
        some (some (.opening t), t.name :: names, p.2)

theorem length_piece {names : List (List Char)} {s : List Char}
    {p : Option Event × List (List Char) × List Char} (h : piece names s = some p) :
    p.2.2.length ≤ s.length := by
  unfold piece at h
  split at h
  · obtain ⟨q, hq, he⟩ := Option.map_eq_some_iff.1 h
    rw [← he]
    exact Nat.le_succ_of_le (length_declaration hq)
  · obtain ⟨e, _, he⟩ := Option.map_eq_some_iff.1 h
    rw [← he]
    exact length_upTo _ _
  · rename_i r
    cases names with
    | nil => simp at h
    | cons n ns =>
        simp only at h
        split at h
        · simp only [Option.some.injEq] at h
          rw [← h]
          exact Nat.le_succ_of_le (length_upTo _ r)
        · simp at h
  · simp only at h
    split at h <;>
      · simp only [Option.some.injEq] at h
        rw [← h]
        exact length_upToTagEnd _ _

def eventsFrom (names : List (List Char)) (s : List Char) : List Event :=
  match s with
  | [] => []
  | c :: r =>
      if c == '<' then
        if r.isEmpty then []
        else match _h : piece names r with
          | none => [.malformed]
          | some (e, names', rest) => e.toList ++ eventsFrom names' rest
      else
        .text (c :: r.takeWhile (fun d => d != '<')) ::
          eventsFrom names (r.dropWhile (fun d => d != '<'))
  termination_by s.length
  decreasing_by
    · exact Nat.lt_succ_of_le (length_piece _h)
    · exact Nat.lt_succ_of_le (List.dropWhile_sublist _).length_le

def events (s : List Char) : List Event :=
  match s with
  | c :: r => if c.toNat == 0xFEFF then eventsFrom [] r else eventsFrom [] (c :: r)
  | [] => []

end OfficeSchema.Markup
