import Mathlib.Data.List.Basic
import OfficeSchema.Particle.Path
import OfficeSchema.Proofs.Text.Words

/-!
Paths in writing. The text of a path is cut into steps at the slashes, a step into its two numbers
at the bar. The empty path is written as a slash alone, as a step without digits would be, and no
step is without digits; so a path is known from its text.
-/

namespace OfficeSchema

namespace Step

variable {s t : Step}

def numerals (s : Step) : List (List Char) :=
  (toString s.position).toList ::
    if s.alternative = 0 then [] else [(toString s.alternative).toList]

theorem numerals_inj (h : s.numerals = t.numerals) : s = t := by
  obtain ⟨hposition, halternative⟩ := List.cons.inj h
  rw [String.toList_inj] at hposition
  have halternative : s.alternative = t.alternative := by
    by_cases hs : s.alternative = 0 <;> by_cases ht : t.alternative = 0
    · rw [hs, ht]
    · simp [hs, ht] at halternative
    · simp [hs, ht] at halternative
    · rw [if_neg hs, if_neg ht, List.cons.injEq, String.toList_inj] at halternative
      exact Text.toString_inj halternative.1
  rw [Step.mk.injEq]
  exact ⟨Text.toString_inj hposition, halternative⟩

theorem isDigit_of_mem_numerals {w : List Char} (hw : w ∈ s.numerals) :
    ∀ c ∈ w, c.isDigit = true := by
  intro c hc
  rcases List.mem_cons.mp hw with rfl | hw
  · exact Text.isDigit_of_mem_toString hc
  · split at hw
    · simp at hw
    · rw [List.mem_singleton] at hw
      exact Text.isDigit_of_mem_toString (hw ▸ hc)

theorem toList_text (s : Step) : s.text.toList =
    (toString s.position).toList ++ s.numerals.tail.flatMap (fun w => '|' :: w) := by
  by_cases hs : s.alternative = 0 <;> simp [text, numerals, hs]

theorem pieces_text (s : Step) : Text.pieces (· == '|') s.text.toList = s.numerals := by
  have hclean : ∀ w ∈ s.numerals, ∀ c ∈ w, (c == '|') = false := fun w hw c hc =>
    Text.ne_of_isDigit (isDigit_of_mem_numerals hw c hc) rfl
  obtain ⟨hposition, halternative⟩ := List.forall_mem_cons.mp hclean
  rw [toList_text]
  exact Text.pieces_append_flatMap rfl hposition halternative

theorem eq_of_text_eq (h : s.text = t.text) : s = t := by
  have hnumerals := pieces_text s
  rw [h, pieces_text] at hnumerals
  exact numerals_inj hnumerals.symm

theorem slash_not_mem_text (s : Step) : ∀ c ∈ s.text.toList, (c == '/') = false := by
  intro c hc
  rw [toList_text, List.mem_append, List.mem_flatMap] at hc
  rcases hc with hc | ⟨w, hw, hc⟩
  · exact Text.ne_of_isDigit (Text.isDigit_of_mem_toString hc) rfl
  · rcases List.mem_cons.mp hc with rfl | hc
    · rfl
    · exact Text.ne_of_isDigit (isDigit_of_mem_numerals (List.mem_of_mem_tail hw) c hc) rfl

theorem text_ne_empty (s : Step) : s.text.toList ≠ [] := by
  simp [toList_text]

end Step

namespace Path

variable {p q : Path}

theorem toList_text_cons (s : Step) (p : Path) : (text (s :: p)).toList =
    ((s :: p).map (fun t => t.text.toList)).flatMap (fun w => '/' :: w) := by
  rw [text, String.toList_append, List.map_cons, Text.toList_sepBy_cons, List.map_cons,
    List.flatMap_cons, List.flatMap_map, List.flatMap_map]
  rfl

theorem filter_pieces_text (p : Path) :
    (Text.pieces (· == '/') p.text.toList).filter (fun w => !w.isEmpty) =
      p.map (fun s => s.text.toList) := by
  cases p with
  | nil => rfl
  | cons s p =>
      have hclean : ∀ w ∈ (s :: p).map (fun t => t.text.toList), ∀ c ∈ w, (c == '/') = false :=
        List.forall_mem_map.mpr fun t _ => t.slash_not_mem_text
      have hcut := Text.pieces_append_flatMap (d := '/') (w := []) rfl (by simp) hclean
      rw [List.nil_append, ← toList_text_cons] at hcut
      rw [hcut, List.filter_cons_of_neg (by simp), List.filter_eq_self, List.forall_mem_map]
      intro t _
      simpa using t.text_ne_empty

theorem text_inj : p.text = q.text ↔ p = q := by
  constructor
  · intro h
    have hsteps := filter_pieces_text p
    rw [h, filter_pieces_text] at hsteps
    exact (List.map_injective_iff.mpr fun s t hst =>
      Step.eq_of_text_eq (String.toList_inj.mp hst)) hsteps.symm
  · rintro rfl
    rfl

example : text [] = "/" ∧ text [⟨0, 0⟩] = "/0" ∧ text [⟨10, 0⟩, ⟨0, 2⟩] = "/10/0|2" := by decide

end Path

end OfficeSchema
