import OfficeSchema.Value.Numeral

namespace OfficeSchema.Markup

def scalar? (n : Nat) : Option Char :=
  if n = 0 then none else if n.isValidChar then some (Char.ofNat n) else none

def reference? : List Char → Option Char
  | '#' :: 'x' :: ds => if ds.length ≤ 6 then (Numeral.inBase? 16 0 ds).bind scalar? else none
  | '#' :: ds => if ds.length ≤ 7 then (Numeral.inBase? 10 0 ds).bind scalar? else none
  | name =>
      if name == "lt".toList then some '<'
      else if name == "gt".toList then some '>'
      else if name == "amp".toList then some '&'
      else if name == "apos".toList then some '\x27'
      else if name == "quot".toList then some '\x22'
      else none

/-- Reads on, inside a reference if what was read of it is given, its last character first. -/
def unescapeFrom : Option (List Char) → List Char → Option (List Char)
  | none, [] => some []
  | some _, [] => none
  | none, c :: r =>
      if c == '&' then unescapeFrom (some []) r else (unescapeFrom none r).map (c :: ·)
  | some name, c :: r =>
      if c == ';' then
        match reference? name.reverse with
        | some d => (unescapeFrom none r).map (d :: ·)
        | none => none
      else if c == '&' then none
      else unescapeFrom (some (c :: name)) r

def unescape (s : List Char) : Option (List Char) := unescapeFrom none s

theorem unescape_plain (s : List Char) (h : ∀ c ∈ s, (c == '&') = false) :
    unescape s = some s := by
  induction s with
  | nil => rfl
  | cons c r ih =>
      have hc := h c (List.mem_cons_self ..)
      have hr := ih (fun d hd => h d (List.mem_cons_of_mem _ hd))
      simp only [unescape] at hr ⊢
      simp [unescapeFrom, hc, hr]

end OfficeSchema.Markup
