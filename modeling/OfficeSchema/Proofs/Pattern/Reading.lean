import OfficeSchema.Pattern.Reader

/-!
How far an expression is read. A reader keeps to the text before a closing parenthesis that none of
its own groups opened: what it reads there is what it reads where the text ends, unless the text
ends in a comment, which takes the parenthesis in.
-/

namespace OfficeSchema.Pattern

namespace Reading

variable {α β : Type}

theorem bind_apply (g : Reading α) (h : α → Reading β) (s : List Char) :
    (g >>= h) s = (g s).bind fun p => h p.1 p.2 := rfl

theorem bind_eq_some {g : Reading α} {h : α → Reading β} {s : List Char} {p : β × List Char} :
    (g >>= h) s = some p ↔ ∃ x u, g s = some (x, u) ∧ h x u = some p := by
  simp [bind_apply, Option.bind_eq_some_iff]

theorem of_some_eq_some {x y : α} {u v : List Char} (h : some (x, u) = some (y, v)) :
    x = y ∧ u = v := Prod.mk.inj (Option.some.inj h)

theorem bind_of_eq {g : Reading α} {h : α → Reading β} {s u : List Char} {x : α}
    (hg : g s = some (x, u)) : (g >>= h) s = h x u := by
  rw [bind_apply, hg]
  rfl

abbrev closing : List Char := [')', '$']

/-- A reader keeps to the text before the end of the group. -/
structure Contained (g : Reading α) : Prop where
  suffix : ∀ {s x u}, g s = some (x, u) → u <:+ s
  forward : ∀ {s x u}, g s = some (x, u) →
    g (s ++ closing) = some (x, u ++ closing) ∨ u = [] ∧ g (s ++ closing) = some (x, [])
  backward : ∀ {s x u}, g (s ++ closing) = some (x, u ++ closing) → g s = some (x, u)

/-- A reader that looks ahead, but takes the end of the text for a closing parenthesis. -/
structure Exact (g : Reading α) : Prop where
  suffix : ∀ {s x u}, g s = some (x, u) → u <:+ s
  append : ∀ s, g (s ++ closing) = (g s).map fun p => (p.1, p.2 ++ closing)

def SelfDelimiting (g : Reading α) : Prop :=
  ∀ ⦃s x u⦄, g s = some (x, u) → ∃ w, s = w ++ u ∧ ∀ v, g (w ++ v) = some (x, v)

theorem Exact.contained {g : Reading α} (hg : Exact g) : Contained g where
  suffix := hg.suffix
  forward h := .inl (by rw [hg.append, h]; rfl)
  backward {s x u} h := by
    rw [hg.append, Option.map_eq_some_iff] at h
    obtain ⟨⟨y, w⟩, hy, heq⟩ := h
    obtain ⟨rfl, hw⟩ := Prod.mk.inj heq
    rw [hy, ← List.append_cancel_right hw]

theorem SelfDelimiting.contained {g : Reading α} (hg : SelfDelimiting g) : Contained g where
  suffix h := by
    obtain ⟨w, rfl, -⟩ := hg h
    exact List.suffix_append w _
  forward h := by
    obtain ⟨w, rfl, hw⟩ := hg h
    exact .inl (by rw [List.append_assoc, hw])
  backward h := by
    obtain ⟨w, hs, hw⟩ := hg h
    rw [← List.append_assoc] at hs
    rw [List.append_cancel_right hs, hw]

namespace SelfDelimiting

theorem pure (x : α) : SelfDelimiting (Pure.pure x : Reading α) := by
  rintro s y u h
  obtain ⟨rfl, rfl⟩ := of_some_eq_some h
  exact ⟨[], rfl, fun v => rfl⟩

theorem failure : SelfDelimiting (Alternative.failure : Reading α) := nofun

theorem ofOption (o : Option α) : SelfDelimiting (ofOption o) := by
  cases o with
  | none => exact nofun
  | some x => exact pure x

theorem next : SelfDelimiting next
  | c :: s, _, _, h => by
      obtain ⟨rfl, rfl⟩ := of_some_eq_some h
      exact ⟨[c], rfl, fun v => rfl⟩

end SelfDelimiting

namespace Exact

theorem ahead {test : List Char → Bool} (h : ∀ s, test (s ++ closing) = test s) :
    Exact (ahead test) where
  suffix h := by
    obtain ⟨-, rfl⟩ := of_some_eq_some h
    exact List.suffix_rfl
  append s := by simp [Reading.ahead, h]

theorem attempt {g : Reading α} (hg : Exact g) : Exact (attempt g) where
  suffix {s x u} h := by
    rw [Reading.attempt] at h
    split at h
    · next y w hy =>
        obtain ⟨-, rfl⟩ := of_some_eq_some h
        exact hg.suffix hy
    · obtain ⟨-, rfl⟩ := of_some_eq_some h
      exact List.suffix_rfl
  append s := by
    rw [Reading.attempt, Reading.attempt, hg.append]
    cases g s <;> rfl

theorem sees {c : Char} (hc : c ≠ ')') : Exact (sees c) where
  suffix {s x u} h := by
    cases s with
    | nil =>
        obtain ⟨-, rfl⟩ := of_some_eq_some h
        exact List.suffix_rfl
    | cons d s =>
        rw [Reading.sees] at h
        split at h <;> obtain ⟨-, rfl⟩ := of_some_eq_some h
        · exact List.suffix_cons d _
        · exact List.suffix_rfl
  append s := by
    cases s with
    | nil => simp [Reading.sees, hc.symm]
    | cons d s =>
        simp only [List.cons_append, Reading.sees]
        split <;> rfl

theorem pure (x : α) : Exact (Pure.pure x : Reading α) where
  suffix h := by
    obtain ⟨-, rfl⟩ := of_some_eq_some h
    exact List.suffix_rfl
  append _ := rfl

theorem failure : Exact (Alternative.failure : Reading α) := ⟨nofun, fun _ => rfl⟩

theorem ofOption (o : Option α) : Exact (ofOption o) := by
  cases o with
  | none => exact failure
  | some x => exact pure x

theorem bind {g : Reading α} {h : α → Reading β} (hg : Exact g) (hh : ∀ x, Exact (h x)) :
    Exact (g >>= h) where
  suffix e := by
    obtain ⟨x, u, hx, hy⟩ := bind_eq_some.mp e
    exact ((hh x).suffix hy).trans (hg.suffix hx)
  append s := by
    rw [bind_apply, bind_apply, hg.append]
    cases g s with
    | none => rfl
    | some p => exact (hh p.1).append p.2

theorem ite {p : Prop} [Decidable p] {g h : Reading α} (hg : Exact g) (hh : Exact h) :
    Exact (if p then g else h) := by
  split
  · exact hg
  · exact hh

end Exact

namespace Contained

theorem pure (x : α) : Contained (Pure.pure x : Reading α) := (SelfDelimiting.pure x).contained

theorem failure : Contained (Alternative.failure : Reading α) := SelfDelimiting.failure.contained

theorem ofOption (o : Option α) : Contained (ofOption o) := (SelfDelimiting.ofOption o).contained

theorem next : Contained next := SelfDelimiting.next.contained

theorem sees {c : Char} (hc : c ≠ ')') : Contained (sees c) := (Exact.sees hc).contained

theorem bind {g : Reading α} {h : α → Reading β} (hg : Contained g)
    (hh : ∀ x, Contained (h x)) : Contained (g >>= h) where
  suffix e := by
    obtain ⟨x, u, hx, hy⟩ := bind_eq_some.mp e
    exact ((hh x).suffix hy).trans (hg.suffix hx)
  forward e := by
    obtain ⟨x, u, hx, hy⟩ := bind_eq_some.mp e
    rcases hg.forward hx with hx' | ⟨rfl, hx'⟩
    · rw [bind_of_eq hx']
      exact (hh x).forward hy
    · obtain rfl := List.suffix_nil.mp ((hh x).suffix hy)
      exact .inr ⟨rfl, by rw [bind_of_eq hx', hy]⟩
  backward {s y v} e := by
    obtain ⟨x, w, hx, hy⟩ := bind_eq_some.mp e
    -- the first reader stops before the parenthesis as well, since the second goes on from there
    obtain ⟨a, rfl⟩ := (hh x).suffix hy
    rw [← List.append_assoc] at hx hy
    exact bind_eq_some.mpr ⟨x, a ++ v, hg.backward hx, (hh x).backward hy⟩

theorem map {g : Reading α} (k : α → β) (hg : Contained g) : Contained (k <$> g) :=
  hg.bind fun x => pure (k x)

theorem ite {p : Prop} [Decidable p] {g h : Reading α} (hg : Contained g) (hh : Contained h) :
    Contained (if p then g else h) := by
  split
  · exact hg
  · exact hh

end Contained

theorem exact_leading {test : Char → Bool} (hsign : test ')' = false) : Exact (leading test) where
  suffix h := by
    obtain ⟨-, rfl⟩ := of_some_eq_some h
    exact List.dropWhile_suffix test
  append s := by
    induction s with
    | nil => simp [leading, hsign]
    | cons c s ih =>
        simp only [leading, Option.map_some, Option.some.injEq, Prod.mk.injEq] at ih
        simp only [leading, List.cons_append, List.takeWhile_cons, List.dropWhile_cons]
        split
        · simp [ih]
        · rfl

theorem exact_upTo {sep : Char} (hsep : sep ∉ closing) : Exact (upTo sep) where
  suffix {s x u} h := by
    rw [Text.eq_append_of_cutAt h]
    exact ⟨x ++ [sep], by simp⟩
  append s := by
    induction s with
    | nil =>
        have hne : ∀ c ∈ closing, (c == sep) = false := fun c hc =>
          beq_eq_false_iff_ne.mpr fun heq => hsep (heq ▸ hc)
        simp [upTo, Text.cutAt, hne]
    | cons c s ih =>
        simp only [upTo] at ih
        simp only [List.cons_append, upTo, Text.cutAt, ih]
        split
        · rfl
        · cases Text.cutAt sep s <;> rfl

theorem dropVerbose_append (inComment : Bool) (s : List Char) :
    dropVerbose inComment (s ++ closing) = dropVerbose inComment s ++ closing ∨
      dropVerbose inComment s = [] ∧ dropVerbose inComment (s ++ closing) = [] := by
  induction s generalizing inComment with
  | nil =>
      cases inComment with
      | false => exact .inl rfl
      | true => exact .inr ⟨rfl, rfl⟩
  | cons c s ih =>
      simp only [List.cons_append, dropVerbose]
      split
      · exact ih _
      · split
        · exact ih _
        · split
          · exact ih _
          · exact .inl rfl

theorem dropVerbose_suffix (inComment : Bool) (s : List Char) : dropVerbose inComment s <:+ s := by
  induction s generalizing inComment with
  | nil => exact List.suffix_rfl
  | cons c s ih =>
      rw [dropVerbose]
      split
      · exact (ih _).trans (List.suffix_cons c s)
      · split
        · exact (ih _).trans (List.suffix_cons c s)
        · split
          · exact (ih _).trans (List.suffix_cons c s)
          · exact List.suffix_rfl

variable {f : Flags}

theorem afterBlanks_append (s : List Char) :
    afterBlanks f (s ++ closing) = afterBlanks f s ++ closing ∨
      afterBlanks f s = [] ∧ afterBlanks f (s ++ closing) = [] := by
  rw [afterBlanks, afterBlanks]
  split
  · exact dropVerbose_append false s
  · exact .inl rfl

theorem afterBlanks_suffix (s : List Char) : afterBlanks f s <:+ s := by
  rw [afterBlanks]
  split
  · exact dropVerbose_suffix false s
  · exact List.suffix_rfl

theorem Contained.total {g : List Char → α × List Char} (hsuffix : ∀ s, (g s).2 <:+ s)
    (happend : ∀ s, g (s ++ closing) = ((g s).1, (g s).2 ++ closing) ∨
      (g s).2 = [] ∧ g (s ++ closing) = g s) : Contained (fun s => some (g s) : Reading α) where
  suffix {s x u} h := by
    have hs : g s = (x, u) := Option.some.inj h
    simpa [hs] using hsuffix s
  forward {s x u} h := by
    have hs : g s = (x, u) := Option.some.inj h
    rcases happend s with heq | ⟨hnil, heq⟩
    · exact .inl (by rw [heq, hs])
    · rw [hs] at hnil heq
      subst hnil
      exact .inr ⟨rfl, congrArg some heq⟩
  backward {s x u} h := by
    have hs : g (s ++ closing) = (x, u ++ closing) := Option.some.inj h
    rcases happend s with heq | ⟨hnil, heq⟩
    · obtain ⟨hx, hu⟩ := Prod.mk.inj (heq.symm.trans hs)
      exact congrArg some (Prod.ext hx (List.append_cancel_right hu))
    · rw [← heq, hs] at hnil
      cases u <;> simp at hnil

theorem contained_skip : Contained (skip f) := by
  refine .total afterBlanks_suffix fun s => ?_
  rcases afterBlanks_append (f := f) s with heq | ⟨hnil, heq⟩
  · exact .inl (by rw [heq])
  · exact .inr ⟨hnil, by rw [hnil, heq]⟩

theorem contained_hexDigits (n : Nat) (acc : List Char) :
    Contained (hexDigits f n acc) := by
  induction n generalizing acc with
  | zero => exact .pure acc.reverse
  | succ n ih => exact .bind .next fun _ => .ite (.bind contained_skip fun _ => ih _) .failure

theorem selfDelimiting_untilBrace (verbose inComment : Bool) :
    SelfDelimiting (untilBrace verbose inComment) := by
  intro s x u h
  fun_induction untilBrace verbose inComment s generalizing x u with
  | case1 => exact absurd h nofun
  | case2 c s ih | case3 _ c s _ _ ih | case4 _ c s _ _ _ ih =>
      obtain ⟨w, rfl, hw⟩ := ih h
      exact ⟨c :: w, rfl, fun v => by simp [untilBrace, *]⟩
  | case5 _ c s =>
      obtain ⟨rfl, rfl⟩ := of_some_eq_some h
      exact ⟨[c], rfl, fun v => by simp [untilBrace, *]⟩
  | case6 _ c s _ _ _ _ ih =>
      obtain ⟨⟨y, v⟩, hy, heq⟩ := Option.map_eq_some_iff.mp h
      obtain ⟨rfl, rfl⟩ := Prod.mk.inj heq
      obtain ⟨w, rfl, hw⟩ := ih hy
      exact ⟨c :: w, rfl, fun v => by simp [untilBrace, *]⟩

theorem contained_untilBrace (verbose inComment : Bool) :
    Contained (untilBrace verbose inComment) :=
  (selfDelimiting_untilBrace verbose inComment).contained

theorem contained_hexNumber (digits : Nat) (fixed : Char → Sign) :
    Contained (hexNumber f digits fixed) :=
  .bind contained_skip fun _ => .bind (.sees (by decide)) fun _ => .ite
    (.bind (contained_untilBrace ..) fun _ => .map _ (.ofOption _))
    (.bind (contained_hexDigits ..) fun _ => .map _ (.ofOption _))

theorem contained_property (negated : Bool) : Contained (property f negated) := by
  have hname : Contained (propertyName f) :=
    .bind contained_skip fun _ => .bind (.sees (by decide)) fun _ => .ite
      (contained_untilBrace ..)
      (.bind .next fun c => .ite .failure (.bind contained_skip fun _ => .pure [c]))
  exact .ite .failure (.bind hname fun _ => .bind (.ofOption _) fun _ => .pure _)

theorem opensName_append (s : List Char) : opensName f (s ++ closing) = opensName f s := by
  rcases s with _ | ⟨c, s⟩
  · rfl
  · by_cases hc : c = '\x7b'
    · subst hc
      rcases afterBlanks_append (f := f) s with heq | ⟨hnil, heq⟩
      · simp only [List.cons_append, opensName, heq]
        cases afterBlanks f s <;> rfl
      · simp only [List.cons_append, opensName, hnil, heq]
    · simp [opensName, hc]

theorem contained_boundary : Contained (boundary f) :=
  .bind (Exact.ahead opensName_append).contained fun _ => .ite
    (.bind .next fun _ => .bind (contained_untilBrace ..) fun _ => .map _ (.ofOption _))
    (.pure _)

theorem contained_escape : Contained (escape f) :=
  .bind .next fun _ => .ite (contained_hexNumber ..) <| .ite (contained_hexNumber ..) <|
    .ite (contained_hexNumber ..) <| .ite (contained_property _) <|
      .ite contained_boundary (.ofOption _)

theorem exact_className : Exact className :=
  .bind (exact_upTo (by decide)) fun _ => .bind (.sees (by decide)) fun _ =>
    .ite (.ofOption _) .failure

theorem exact_namedClass : Exact (namedClass f) :=
  .bind (.sees (by decide)) fun _ => .ite
    (.bind (.sees (by decide)) fun _ => .bind exact_className fun _ => .pure _) .failure

theorem exact_setOp : Exact setOp where
  suffix {s x u} h := by
    unfold setOp at h
    split at h
    all_goals
      try
        obtain ⟨-, rfl⟩ := of_some_eq_some h
        exact ⟨[_, _], rfl⟩
    exact absurd h nofun
  append s := by
    rcases s with _ | ⟨c, _ | ⟨d, s⟩⟩
    · rfl
    · unfold setOp
      split <;> simp_all
    · unfold setOp
      split <;> simp_all

theorem exact_bracketStart (acc : Operand) (atStart : Bool) :
    Exact (bracketStart f acc atStart) where
  suffix {s x u} h := by
    fun_induction bracketStart f acc atStart s with
    | case2 _ _ s ih | case5 _ _ c s _ _ _ ih => exact (ih h).trans (List.suffix_cons _ s)
    | case1 | case4 | case6 =>
        obtain ⟨-, rfl⟩ := of_some_eq_some h
        exact List.suffix_rfl
    | case3 _ s =>
        obtain ⟨-, rfl⟩ := of_some_eq_some h
        exact List.suffix_cons _ s
  append s := by
    fun_induction bracketStart f acc atStart s with
    | case1 =>
        have hblank : Text.isBlank ')' = false := by decide
        simp [bracketStart, hblank]
    | case2 acc atStart s ih => exact ih
    | case3 | case4 | case5 | case6 => simp_all [bracketStart]

theorem contained_bracketSign : Contained (bracketSign f) :=
  .bind .next fun _ => .ite contained_escape (.pure _)

theorem opensRange_append (s : List Char) : opensRange f (s ++ closing) = opensRange f s := by
  rcases s with _ | ⟨c, s⟩
  · rfl
  · by_cases hc : c = '-'
    · subst hc
      rcases afterBlanks_append (f := f) s with heq | ⟨hnil, heq⟩
      · simp only [List.cons_append, opensRange, heq]
        cases afterBlanks f s <;> rfl
      · simp only [List.cons_append, opensRange, hnil, heq]
    · simp [opensRange, hc]

theorem contained_bracketItem : Contained (bracketItem f) :=
  .bind contained_bracketSign fun _ => .bind contained_skip fun _ =>
    .bind (Exact.ahead opensRange_append).contained fun _ => .ite
      (.bind .next fun _ => .bind contained_skip fun _ => .bind contained_bracketSign fun _ =>
        .ofOption _)
      (.ofOption _)

theorem contained_negation : Contained (negation f) :=
  .bind (.sees (by decide)) fun _ => .ite (.bind contained_skip fun _ => .pure true) (.pure false)

mutual

theorem contained_brackets : (n : Nat) → (f : Flags) → Contained (brackets n f)
  | 0, _ => .failure
  | n + 1, f => by
      rw [brackets]
      exact .bind contained_skip fun _ => .bind contained_negation fun _ =>
        .bind (exact_bracketStart ..).contained fun _ => .bind (contained_bracketRest n ..) fun _ =>
          .bind (.ofOption _) fun _ => .pure _

theorem contained_bracketRest : (n : Nat) → (f : Flags) → (left : Option (SetOp × Nested)) →
    (acc : Operand) → Contained (bracketRest n f left acc)
  | 0, _, _, _ => .failure
  | n + 1, f, left, acc => by
      rw [bracketRest]
      refine .bind contained_skip fun _ => .bind (.sees (by decide)) fun _ => .ite (.pure _) <|
        .bind (.sees (by decide)) fun _ => .ite ?_ ?_
      · refine .bind exact_namedClass.attempt.contained fun class? => ?_
        cases class? with
        | some set => exact contained_bracketRest n ..
        | none => exact .bind (contained_brackets n f) fun _ => contained_bracketRest n ..
      · refine .bind exact_setOp.attempt.contained fun op? => ?_
        cases op? with
        | some op => exact contained_bracketRest n ..
        | none => exact .bind contained_bracketItem fun _ => contained_bracketRest n ..

end

theorem digits_append (verbose inComment : Bool) (s : List Char) :
    digits verbose inComment (s ++ closing) =
        ((digits verbose inComment s).1, (digits verbose inComment s).2 ++ closing) ∨
      (digits verbose inComment s).2 = [] ∧
        digits verbose inComment (s ++ closing) = digits verbose inComment s := by
  fun_induction digits verbose inComment s with
  | case1 inComment =>
      cases inComment with
      | false =>
          have hblank : Text.isBlank ')' = false := by decide
          simp [digits, hblank]
      | true => exact .inr ⟨rfl, by simp [digits]⟩
  | case3 _ c s _ _ rest ih =>
      rcases ih with heq | ⟨hnil, heq⟩
      · exact .inl (by simp_all [digits, rest])
      · exact .inr ⟨hnil, by simp_all [digits, rest]⟩
  | case2 | case4 | case5 => simp_all [digits]
  | case6 => cases verbose <;> simp_all [digits]

theorem digits_suffix (verbose inComment : Bool) (s : List Char) :
    (digits verbose inComment s).2 <:+ s := by
  fun_induction digits verbose inComment s with
  | case1 | case6 => exact List.suffix_rfl
  | case2 _ _ ih | case3 _ _ _ _ _ _ ih | case4 _ _ _ _ _ _ ih | case5 _ _ _ _ _ _ _ ih =>
      exact ih.trans (List.suffix_cons ..)

theorem contained_count : Contained (count f) :=
  .bind (exact_leading (by decide)).contained fun _ => .bind (.total (digits_suffix _ _) (digits_append _ _)) fun _ =>
    .bind (exact_leading (by decide)).contained fun _ => .ite .failure (.pure _)

theorem contained_bounds : Contained (bounds f) :=
  .bind contained_skip fun _ => .bind contained_count fun _ =>
    .bind (.sees (by decide)) fun _ => .ite (.pure _) <|
      .bind (.sees (by decide)) fun _ => .ite
        (.bind contained_skip fun _ => .bind (.sees (by decide)) fun _ => .ite (.pure _) <|
          .bind contained_count fun _ => .bind (.sees (by decide)) fun _ =>
            .ite (.ite (.pure _) .failure) .failure)
        .failure

theorem selfDelimiting_flagRun (f : Flags) (seen : List Char) (negated : Bool) :
    SelfDelimiting (flagRun f seen negated) := by
  intro s x u h
  fun_induction flagRun f seen negated s generalizing x u with
  | case1 => exact absurd h nofun
  | case2 | case4 | case7 => exact absurd h nofun
  | case3 f seen negated c s =>
      obtain ⟨rfl, rfl⟩ := of_some_eq_some h
      exact ⟨[c], rfl, fun v => by simp [flagRun, *]⟩
  | case5 _ _ _ c s hend hseen hminus ih =>
      obtain ⟨w, rfl, hw⟩ := ih h
      exact ⟨c :: w, rfl, fun v => by
        rw [List.cons_append, flagRun, if_neg hend, if_neg hseen, if_pos hminus, hw]⟩
  | case6 _ _ _ c s hend hseen hminus hflag ih =>
      obtain ⟨w, rfl, hw⟩ := ih h
      exact ⟨c :: w, rfl, fun v => by
        rw [List.cons_append, flagRun, if_neg hend, if_neg hseen, if_neg hminus, if_pos hflag, hw]⟩

theorem contained_opening (set : Setting) : Contained (opening set) := by
  have hname : Contained (namedGroup set) :=
    .bind (exact_upTo (by decide)).contained fun _ => .ite (.pure _) .failure
  have hflags : ∀ run, Contained (flagged set run) := fun _ =>
    .ite (.ite .failure (.pure _)) (.pure _)
  exact .bind contained_skip fun _ => .bind (.sees (by decide)) fun _ => .ite
    (.bind (.sees (by decide)) fun _ => .ite
      (.bind (.sees (by decide)) fun _ => .ite hname .failure)
      (.bind (.sees (by decide)) fun _ => .ite hname
        (.bind (selfDelimiting_flagRun ..).contained hflags)))
    (.pure _)

theorem contained_again (items : List Atom) (min : Nat) (max : Option Nat) :
    Contained (again items min max) :=
  .bind (.ofOption _) fun _ => .bind (.sees (by decide)) fun _ => .pure _

theorem contained_part (n : Nat) (f : Flags) (items : List Atom) (c : Char) :
    Contained (part n f items c) := by
  unfold part
  split
  · exact contained_again ..
  · exact contained_again ..
  · exact contained_again ..
  · exact .bind contained_bounds fun _ => .bind contained_skip fun _ => contained_again ..
  · exact .bind (contained_brackets n f) fun _ => .pure _
  · exact .bind (.ofOption _) fun _ => .pure _
  · exact .pure _
  · exact .pure _
  · exact .bind contained_escape fun _ => .bind (.ofOption _) fun _ => .pure _
  · exact .pure _

theorem closes_append (s : List Char) : closes (s ++ closing) = closes s := by
  cases s <;> rfl

theorem contained_close : Contained close := .bind .next fun _ => .ite (.pure ()) .failure

theorem contained_branches (n : Nat) (done items : List Atom) (set : Setting) :
    Contained (branches n done items set) := by
  induction n generalizing done items set with
  | zero => exact .failure
  | succ n ih =>
      rw [branches]
      refine .bind contained_skip fun _ => .bind (Exact.ahead closes_append).contained fun _ =>
        .ite (.pure _) <| .bind .next fun _ => .ite (ih ..) <| .ite ?_ ?_
      · refine .bind (contained_opening set) fun start => ?_
        cases start with
        | setting f => exact ih ..
        | inner kept inside => exact .bind (ih ..) fun _ => .bind contained_close fun _ => ih ..
      · exact .bind (contained_part ..) fun _ => ih ..

end Reading

end OfficeSchema.Pattern
