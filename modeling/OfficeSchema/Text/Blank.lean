namespace OfficeSchema.Text

def isBlank (c : Char) : Bool :=
  let n := c.toNat
  (9 ≤ n && n ≤ 13) || n == 0x20 || n == 0x85 || n == 0xA0 || n == 0x1680 ||
    (0x2000 ≤ n && n ≤ 0x200A) || n == 0x2028 || n == 0x2029 || n == 0x202F ||
    n == 0x205F || n == 0x3000

theorem isBlank_space : isBlank ' ' = true := rfl

def trimStart (s : List Char) : List Char := s.dropWhile isBlank

def trimEnd (s : List Char) : List Char := (s.reverse.dropWhile isBlank).reverse

def trim (s : List Char) : List Char := trimEnd (trimStart s)

def allBlank (s : List Char) : Bool := s.all isBlank

def extend (c : Char) : List (List Char) → List (List Char)
  | [] => [[c]]
  | w :: ws => (c :: w) :: ws

/-- Cuts a list at every character for which `cut` holds; the pieces may be empty. -/
def pieces (cut : Char → Bool) : List Char → List (List Char)
  | [] => [[]]
  | c :: r => if cut c then [] :: pieces cut r else extend c (pieces cut r)

theorem pieces_ne_nil (cut : Char → Bool) (s : List Char) : pieces cut s ≠ [] := by
  cases s with
  | nil => simp [pieces]
  | cons c r =>
      simp only [pieces]
      split
      · simp
      · cases pieces cut r <;> simp [extend]

def words (s : List Char) : List (List Char) :=
  (pieces isBlank s).filter (fun w => !w.isEmpty)

def joined : List (List Char) → List Char
  | [] => []
  | [w] => w
  | w :: v :: ws => w ++ ' ' :: joined (v :: ws)

def collapse (s : List Char) : List Char := joined (words s)

def spaced (s : List Char) : List (List Char) :=
  (pieces (· == ' ') s).filter (fun w => !w.isEmpty)

def cutAt (sep : Char) : List Char → Option (List Char × List Char)
  | [] => none
  | c :: r =>
      if c == sep then some ([], r)
      else (cutAt sep r).map (fun p => (c :: p.1, p.2))

theorem eq_append_of_cutAt {sep : Char} :
    ∀ {s a b : List Char}, cutAt sep s = some (a, b) → s = a ++ sep :: b := by
  intro s
  induction s with
  | nil => intro a b h; simp [cutAt] at h
  | cons c r ih =>
      intro a b h
      simp only [cutAt] at h
      split at h
      · rename_i hc
        simp at h hc
        simp [h, hc]
      · obtain ⟨p, hp, he⟩ := Option.map_eq_some_iff.1 h
        simp only [Prod.mk.injEq] at he
        rw [ih hp, ← he.1, ← he.2]
        rfl

def splitColon (s : String) : Option (String × String) :=
  (cutAt ':' s.toList).map (fun p => (String.ofList p.1, String.ofList p.2))

def stripped? : List Char → List Char → Option (List Char)
  | [], s => some s
  | _ :: _, [] => none
  | p :: ps, c :: s => if p == c then stripped? ps s else none

theorem stripped?_eq_some_iff {p s r : List Char} : stripped? p s = some r ↔ s = p ++ r := by
  induction p generalizing s with
  | nil => simp [stripped?]
  | cons a p ih =>
      cases s with
      | nil => simp [stripped?]
      | cons c s =>
          by_cases h : a = c
          · simp [stripped?, h, ih]
          · simp [stripped?, h, Ne.symm h]

def sepBy (sep : String) : List String → String
  | [] => ""
  | [s] => s
  | s :: t :: r => s ++ sep ++ sepBy sep (t :: r)

end OfficeSchema.Text
