import OfficeSchema.Text.Blank

/-!
Cutting a text into pieces. What is put together from pieces that hold no mark, with a mark between
neighbours, is cut into the same pieces again. The words of a text are what is read in it from blank
to blank; they are those of its collapsed form, where single spaces divide them.
-/

namespace OfficeSchema.Text

variable {cut : Char → Bool} {s w : List Char} {ws : List (List Char)} {d : Char}

theorem pieces_append_cons (hw : ∀ c ∈ w, cut c = false) (hd : cut d = true) (s : List Char) :
    pieces cut (w ++ d :: s) = w :: pieces cut s := by
  induction w with
  | nil => rw [List.nil_append, pieces, if_pos hd]
  | cons c w ih =>
      obtain ⟨hc, hw⟩ := List.forall_mem_cons.mp hw
      rw [List.cons_append, pieces, if_neg (by simp [hc]), ih hw, extend]

theorem pieces_eq_singleton (hw : ∀ c ∈ w, cut c = false) : pieces cut w = [w] := by
  induction w with
  | nil => rfl
  | cons c w ih =>
      obtain ⟨hc, hw⟩ := List.forall_mem_cons.mp hw
      rw [pieces, if_neg (by simp [hc]), ih hw, extend]

theorem not_cut_of_mem_pieces (hw : w ∈ pieces cut s) : ∀ c ∈ w, cut c = false := by
  induction s generalizing w with
  | nil =>
      obtain rfl := List.mem_singleton.mp hw
      simp
  | cons c s ih =>
      rw [pieces] at hw
      split at hw
      · rcases List.mem_cons.mp hw with rfl | hw
        · simp
        · exact ih hw
      · next hc =>
          cases hp : pieces cut s with
          | nil => exact absurd hp (pieces_ne_nil cut s)
          | cons v vs =>
              rw [hp, extend] at hw
              rw [hp] at ih
              rcases List.mem_cons.mp hw with rfl | hw
              · rw [List.forall_mem_cons]
                exact ⟨by simpa using hc, ih List.mem_cons_self⟩
              · exact ih (List.mem_cons_of_mem v hw)

theorem pieces_append_flatMap (hd : cut d = true) (hw : ∀ c ∈ w, cut c = false)
    (hws : ∀ v ∈ ws, ∀ c ∈ v, cut c = false) :
    pieces cut (w ++ ws.flatMap (fun v => d :: v)) = w :: ws := by
  induction ws generalizing w with
  | nil => simpa using pieces_eq_singleton hw
  | cons v ws ih =>
      obtain ⟨hv, hws⟩ := List.forall_mem_cons.mp hws
      rw [List.flatMap_cons, List.cons_append, pieces_append_cons hw hd, ih hv hws]

theorem joined_cons (w : List Char) (ws : List (List Char)) :
    joined (w :: ws) = w ++ ws.flatMap (fun v => ' ' :: v) := by
  induction ws generalizing w with
  | nil => simp [joined]
  | cons v ws ih => rw [joined, ih, List.flatMap_cons, List.cons_append]

theorem pieces_joined (hcut : cut ' ' = true) (hws : ∀ w ∈ ws, ∀ c ∈ w, cut c = false)
    (hne : ws ≠ []) : pieces cut (joined ws) = ws := by
  obtain ⟨w, ws, rfl⟩ := List.exists_cons_of_ne_nil hne
  obtain ⟨hw, hws⟩ := List.forall_mem_cons.mp hws
  rw [joined_cons, pieces_append_flatMap hcut hw hws]

theorem toList_sepBy_cons (sep s : String) (ss : List String) :
    (sepBy sep (s :: ss)).toList = s.toList ++ ss.flatMap (fun t => sep.toList ++ t.toList) := by
  induction ss generalizing s with
  | nil => simp [sepBy]
  | cons t ss ih =>
      rw [sepBy, String.toList_append, String.toList_append, ih, List.flatMap_cons,
        List.append_assoc, List.append_assoc]

theorem toString_inj {m n : Nat} (h : toString m = toString n) : m = n := by
  have hread (n : Nat) : Nat.ofDigitChars 10 (toString n).toList 0 = n := by
    rw [Nat.toString_eq_repr, Nat.toList_repr, Nat.ofDigitChars_toDigits (by decide) (by decide)]
  rw [← hread m, h, hread]

theorem ne_of_isDigit {c d : Char} (hc : c.isDigit = true) (hd : d.isDigit = false) :
    (c == d) = false := by
  rw [beq_eq_false_iff_ne]
  rintro rfl
  exact Bool.false_ne_true (hd.symm.trans hc)

theorem isDigit_of_mem_toString {n : Nat} {c : Char} (h : c ∈ (toString n).toList) :
    c.isDigit = true :=
  Nat.isDigit_of_mem_toDigits (by decide) (by decide) (Nat.toList_repr ▸ h)

/-- The words of a text, read from its beginning: a word ends at a blank or with the text. -/
inductive Spells : List Char → List (List Char) → Prop
  | nothing : Spells [] []
  | blank {c : Char} {s : List Char} {ws : List (List Char)} (hc : isBlank c = true)
      (h : Spells s ws) : Spells (c :: s) ws
  | last {w : List Char} (hne : w ≠ []) (hw : ∀ c ∈ w, isBlank c = false) : Spells w [w]
  | word {w : List Char} {c : Char} {s : List Char} {ws : List (List Char)} (hne : w ≠ [])
      (hw : ∀ c ∈ w, isBlank c = false) (hc : isBlank c = true) (h : Spells s ws) :
      Spells (w ++ c :: s) (w :: ws)

theorem mem_words (hw : w ∈ words s) : w ≠ [] ∧ ∀ c ∈ w, isBlank c = false := by
  obtain ⟨hmem, hne⟩ := List.mem_filter.mp hw
  exact ⟨by simpa using hne, not_cut_of_mem_pieces hmem⟩

theorem words_cons_blank {c : Char} (hc : isBlank c = true) (s : List Char) :
    words (c :: s) = words s := by
  rw [words, pieces, if_pos hc]
  rfl

theorem words_eq_singleton (hne : w ≠ []) (hw : ∀ c ∈ w, isBlank c = false) : words w = [w] := by
  rw [words, pieces_eq_singleton hw]
  simpa using hne

theorem words_append_blank {c : Char} (hne : w ≠ []) (hw : ∀ c ∈ w, isBlank c = false)
    (hc : isBlank c = true) (s : List Char) : words (w ++ c :: s) = w :: words s := by
  rw [words, pieces_append_cons hw hc, List.filter_cons_of_pos (by simpa using hne)]
  rfl

theorem Spells.words_eq (h : Spells s ws) : words s = ws := by
  induction h with
  | nothing => rfl
  | blank hc _ ih => rw [words_cons_blank hc, ih]
  | last hne hw => exact words_eq_singleton hne hw
  | word hne hw hc _ ih => rw [words_append_blank hne hw hc, ih]

theorem Spells.cons {c : Char} (hc : isBlank c = false) (h : Spells s ws) :
    ∃ ws, Spells (c :: s) ws := by
  cases h with
  | nothing => exact ⟨_, .last (w := [c]) (by simp) (by simpa using hc)⟩
  | blank hd h => exact ⟨_, .word (w := [c]) (by simp) (by simpa using hc) hd h⟩
  | last hne hw =>
      exact ⟨_, .last (List.cons_ne_nil c _) (List.forall_mem_cons.mpr ⟨hc, hw⟩)⟩
  | word hne hw hd h =>
      exact ⟨_, .word (List.cons_ne_nil c _) (List.forall_mem_cons.mpr ⟨hc, hw⟩) hd h⟩

theorem exists_spells (s : List Char) : ∃ ws, Spells s ws := by
  induction s with
  | nil => exact ⟨[], .nothing⟩
  | cons c s ih =>
      obtain ⟨ws, h⟩ := ih
      cases hc : isBlank c with
      | true => exact ⟨ws, .blank hc h⟩
      | false => exact h.cons hc

theorem spells_iff : Spells s ws ↔ words s = ws := by
  refine ⟨Spells.words_eq, ?_⟩
  rintro rfl
  obtain ⟨ws, h⟩ := exists_spells s
  exact h.words_eq ▸ h

theorem ne_space_of_not_blank {c : Char} (h : isBlank c = false) : (c == ' ') = false := by
  rw [beq_eq_false_iff_ne]
  rintro rfl
  rw [isBlank_space] at h
  cases h

theorem pieces_collapse (hspace : cut ' ' = true) (hcut : ∀ c, isBlank c = false → cut c = false)
    (hne : words s ≠ []) : pieces cut (collapse s) = words s :=
  pieces_joined hspace (fun _ hw c hc => hcut c ((mem_words hw).2 c hc)) hne

theorem filter_pieces_collapse (hspace : cut ' ' = true)
    (hcut : ∀ c, isBlank c = false → cut c = false) :
    (pieces cut (collapse s)).filter (fun w => !w.isEmpty) = words s := by
  by_cases hne : words s = []
  · rw [collapse, hne]
    rfl
  · rw [pieces_collapse hspace hcut hne, List.filter_eq_self]
    intro w hw
    simpa using (mem_words hw).1

theorem spaced_collapse (s : List Char) : spaced (collapse s) = words s :=
  filter_pieces_collapse rfl fun _ => ne_space_of_not_blank

theorem words_collapse (s : List Char) : words (collapse s) = words s :=
  filter_pieces_collapse isBlank_space fun _ => id

end OfficeSchema.Text
