import OfficeSchema.Error
import OfficeSchema.Markup.Escape
import OfficeSchema.Markup.Event

/-!
Attributes of a tag. A key, an equals sign and a quoted value make an attribute. What a key is made
of is not checked, so that it may start with an equals sign, but none may stand twice in a tag.
-/

namespace OfficeSchema.Markup

def goesOn (c : Char) : Bool := c != '=' && !isSpace c

/-- One attribute, whose key starts with the first character, and what follows it. -/
def pair : List Char → Option ((List Char × List Char) × List Char)
  | [] => none
  | c :: s =>
      match (s.dropWhile goesOn).dropWhile isSpace with
      | '=' :: r =>
          match r.dropWhile isSpace with
          | q :: v =>
              if q == '\x27' || q == '\x22' then
                if v.contains q then some ((c :: s.takeWhile goesOn, (upTo q v).1), (upTo q v).2)
                else none
              else none
          | [] => none
      | _ => none

theorem length_pair {s : List Char} {p : (List Char × List Char) × List Char}
    (h : pair s = some p) : p.2.length < s.length := by
  unfold pair at h
  split at h
  · simp at h
  · rename_i c s
    split at h
    · rename_i r hr
      split at h
      · rename_i q v hv
        split at h
        · split at h
          · simp only [Option.some.injEq] at h
            rw [← h]
            have h1 : r.length + 1 ≤ s.length := by
              have := List.dropWhile_sublist isSpace (l := s.dropWhile goesOn) |>.length_le
              rw [hr] at this
              exact Nat.le_trans this (List.dropWhile_sublist _).length_le
            have h2 : v.length + 1 ≤ r.length := by
              have := List.dropWhile_sublist isSpace (l := r) |>.length_le
              rwa [hv] at this
            have h3 := length_upTo q v
            simp only [List.length_cons]
            omega
          · simp at h
        · simp at h
      · simp at h
    · simp at h

def attributesFrom (keys : List (List Char)) (s : List Char) :
    Except MarkupFault (List (String × String)) :=
  let t := s.dropWhile isSpace
  if t.isEmpty then .ok []
  else match _h : pair t with
    | none => .error .badAttribute
    | some ((key, raw), rest) =>
        if keys.contains key then .error .badAttribute
        else match unescape raw with
          | none => .error .badAttributeEscape
          | some value =>
              match attributesFrom (key :: keys) rest with
              | .ok others => .ok ((String.ofList key, String.ofList value) :: others)
              | .error f => .error f
  termination_by s.length
  decreasing_by
    exact Nat.lt_of_lt_of_le (length_pair _h) (List.dropWhile_sublist isSpace).length_le

def Tag.attributes (t : Tag) : Except MarkupFault (List (String × String)) :=
  attributesFrom [] t.body

end OfficeSchema.Markup
