import OfficeSchema.Proofs.Text.Words
import OfficeSchema.Value.SimpleType

namespace OfficeSchema.SimpleType

variable {t : SimpleType} {r s : String}

theorem lexical_eq (h : ¬(t.variety = .atomic ∧ t.primitive = .string)) (r : String) :
    t.lexical r = String.ofList (Text.collapse r.toList) := by
  rw [lexical, if_pos]
  cases hv : t.variety with
  | list => simp
  | atomic => cases hp : t.primitive <;> simp_all [Primitive.collapses]

theorem parse_of_lexical_eq (h : t.lexical s = t.lexical r) :
    t.parse s = { t.parse r with raw := s } := by
  simp only [parse, h]

/-- Texts with the same words are the same value. The text of a value is a value again, the same
one, and is cut into its words by its spaces. -/
theorem parse_spelled (t : SimpleType) (h : ¬(t.variety = .atomic ∧ t.primitive = .string))
    (r : String) :
    (∀ s ws, Text.Spells r.toList ws → Text.Spells s.toList ws →
      t.parse s = { t.parse r with raw := s }) ∧
    t.parse (t.parse r).lexical = { t.parse r with raw := (t.parse r).lexical } ∧
    (∀ ws, Text.Spells r.toList ws ↔ Text.spaced (t.parse r).lexical.toList = ws) ∧
    ∀ ws, Text.Spells r.toList ws → ws ≠ [] →
      Text.pieces (· == ' ') (t.parse r).lexical.toList = ws := by
  have hchars : (t.parse r).lexical.toList = Text.collapse r.toList := by
    rw [parse, lexical_eq h, String.toList_ofList]
  refine ⟨fun s ws hr hs => parse_of_lexical_eq ?_, parse_of_lexical_eq ?_, fun ws => ?_,
    fun ws hr hne => ?_⟩
  · rw [lexical_eq h, lexical_eq h, Text.collapse, Text.collapse, hr.words_eq, hs.words_eq]
  · rw [lexical_eq h, lexical_eq h, hchars, Text.collapse, Text.words_collapse]
    rfl
  · rw [hchars, Text.spaced_collapse, Text.spells_iff]
  · obtain rfl := hr.words_eq
    rw [hchars, Text.pieces_collapse rfl (fun _ => Text.ne_space_of_not_blank) hne]

theorem parse_spelled_list :
    ¬((listOf .integer).variety = .atomic ∧ (listOf .integer).primitive = .string) ∧
      Text.Spells "\t1\u2003 -2\n".toList [['1'], ['-', '2']] ∧
      Text.Spells "1 -2".toList [['1'], ['-', '2']] ∧
      (listOf .integer).parse "\t1\u2003 -2\n" =
        ⟨"\t1\u2003 -2\n", "1 -2", [.integer 1, .integer (-2)], true⟩ ∧
      Text.pieces (· == ' ') "1 -2".toList = [['1'], ['-', '2']] := by
  have ht : ¬((listOf .integer).variety = .atomic ∧ (listOf .integer).primitive = .string) := by
    decide
  have hr : Text.Spells "\t1\u2003 -2\n".toList [['1'], ['-', '2']] :=
    Text.spells_iff.mpr (by decide)
  have hs : Text.Spells "1 -2".toList [['1'], ['-', '2']] := Text.spells_iff.mpr (by decide)
  have hvalue : (listOf .integer).parse "1 -2" =
      ⟨"1 -2", "1 -2", [.integer 1, .integer (-2)], true⟩ := by decide +kernel
  obtain ⟨hsame, -, -, hcut⟩ := parse_spelled (listOf .integer) ht "1 -2"
  refine ⟨ht, hr, hs, ?_, ?_⟩
  · rw [hsame _ _ hs hr, hvalue]
  · have hpieces := hcut _ hs (List.cons_ne_nil _ _)
    rwa [hvalue] at hpieces

end OfficeSchema.SimpleType
