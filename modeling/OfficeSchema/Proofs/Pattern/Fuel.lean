import OfficeSchema.Proofs.Pattern.Reading

/-!
How many steps it takes to read an expression. Every step but the entry into brackets takes a
character off the text, so that twice its length is enough, and more steps read nothing else.
-/

namespace OfficeSchema.Pattern

namespace Reading

variable {α β : Type} {f : Flags}

def Consumes (g : Reading α) : Prop := ∀ ⦃s x u⦄, g s = some (x, u) → u.length < s.length

theorem Consumes.bind {g : Reading α} {h : α → Reading β} (hg : Consumes g)
    (hh : ∀ x, Contained (h x)) : Consumes (g >>= h) := by
  intro s y u e
  obtain ⟨x, v, hx, hy⟩ := bind_eq_some.mp e
  exact Nat.lt_of_le_of_lt ((hh x).suffix hy).length_le (hg hx)

theorem consumes_next : Consumes next
  | _ :: s, _, _, h => by
      obtain ⟨-, rfl⟩ := of_some_eq_some h
      exact Nat.lt_succ_self s.length

/-- On texts below a length, the second reader reads what the first one reads. -/
def Extends (k : Nat) (g h : Reading α) : Prop :=
  ∀ ⦃s⦄, s.length < k → ∀ ⦃p⦄, g s = some p → h s = some p

namespace Extends

variable {k m : Nat}

theorem rfl {g : Reading α} : Extends k g g := fun _ _ _ h => h

theorem zero {g h : Reading α} : Extends 0 g h := fun _ hs => absurd hs (Nat.not_lt_zero _)

theorem failure {g : Reading α} : Extends k Alternative.failure g := fun _ _ _ h => absurd h nofun

theorem bind {g g' : Reading α} {h h' : α → Reading β} {j : α → Nat} (hg : Extends k g g')
    (hj : ∀ s x u, s.length < k → g s = some (x, u) → u.length < j x)
    (hh : ∀ x, Extends (j x) (h x) (h' x)) : Extends k (g >>= h) (g' >>= h') := by
  intro s hs p e
  obtain ⟨x, u, hx, hp⟩ := bind_eq_some.mp e
  exact bind_eq_some.mpr ⟨x, u, hg hs hx, hh x (hj s x u hs hx) hp⟩

theorem bind_contained {g g' : Reading α} {h h' : α → Reading β} (hg : Extends k g g')
    (hc : Contained g) (hh : ∀ x, Extends k (h x) (h' x)) : Extends k (g >>= h) (g' >>= h') :=
  hg.bind (fun _ _ _ hs hx => Nat.lt_of_le_of_lt (hc.suffix hx).length_le hs) hh

theorem bind_consumes {g : Reading α} {h h' : α → Reading β} (hc : Consumes g)
    (hh : ∀ x, Extends (k - 1) (h x) (h' x)) : Extends k (g >>= h) (g >>= h') := by
  refine Extends.rfl.bind (fun s x u hs hx => ?_) hh
  have := hc hx
  omega

theorem bind_sees {c : Char} {h h' : Bool → Reading α} (ht : Extends (k - 1) (h true) (h' true))
    (hf : Extends k (h false) (h' false)) : Extends k (sees c >>= h) (sees c >>= h') := by
  refine Extends.rfl.bind (j := fun b => if b then k - 1 else k) (fun s b u hs hb => ?_) ?_
  · cases s with
    | nil =>
        obtain ⟨rfl, rfl⟩ := of_some_eq_some hb
        exact hs
    | cons d s =>
        rw [sees] at hb
        split at hb <;> obtain ⟨rfl, rfl⟩ := of_some_eq_some hb
        · exact Nat.lt_sub_of_add_lt hs
        · exact hs
  · rintro (_ | _)
    · exact hf
    · exact ht

theorem bind_attempt {g : Reading α} {h h' : Option α → Reading β} (hc : Consumes g)
    (hs : ∀ x, Extends (k - 1) (h (some x)) (h' (some x))) (hn : Extends k (h none) (h' none)) :
    Extends k (attempt g >>= h) (attempt g >>= h') := by
  refine Extends.rfl.bind (j := fun o => if o.isSome then k - 1 else k) (fun s o u hk ho => ?_) ?_
  · rw [attempt] at ho
    split at ho
    · next x v hx =>
        obtain ⟨rfl, rfl⟩ := of_some_eq_some ho
        have := hc hx
        exact Nat.lt_sub_of_add_lt (by omega)
    · obtain ⟨rfl, rfl⟩ := of_some_eq_some ho
      exact hk
  · rintro (_ | _)
    · exact hn
    · exact hs _

theorem ite {p : Prop} [Decidable p] {g g' h h' : Reading α} (hg : Extends k g g')
    (hh : Extends k h h') : Extends k (if p then g else h) (if p then g' else h') := by
  split
  · exact hg
  · exact hh

end Extends

theorem consumes_setOp : Consumes setOp := by
  intro s x u h
  unfold setOp at h
  split at h
  all_goals
    try
      obtain ⟨-, rfl⟩ := of_some_eq_some h
      exact Nat.lt_add_of_pos_right Nat.two_pos
  exact absurd h nofun

theorem consumes_bracketItem : Consumes (bracketItem f) := by
  have hsign : Consumes (bracketSign f) :=
    consumes_next.bind fun _ => .ite contained_escape (.pure _)
  refine hsign.bind fun _ => .bind contained_skip fun _ => ?_
  exact .bind (Exact.ahead opensRange_append).contained fun _ => .ite
    (.bind .next fun _ => .bind contained_skip fun _ => .bind contained_bracketSign fun _ =>
      .ofOption _)
    (.ofOption _)

mutual

theorem extends_brackets : (n : Nat) → ∀ {k m : Nat} {f : Flags}, 2 * k ≤ m →
    Extends k (brackets n f) (brackets m f)
  | 0, _, _, _, _ => .failure
  | _ + 1, k, 0, _, hm => by
      obtain rfl : k = 0 := by omega
      exact .zero
  | n + 1, k, m + 1, f, hm => by
      rw [brackets, brackets]
      exact .bind_contained .rfl contained_skip fun _ =>
        .bind_contained .rfl contained_negation fun _ =>
          .bind_contained .rfl (exact_bracketStart ..).contained fun _ =>
            .bind_contained (extends_bracketRest n (by omega)) (contained_bracketRest ..) fun _ =>
              .rfl

theorem extends_bracketRest : (n : Nat) → ∀ {k m : Nat} {f : Flags}
    {left : Option (SetOp × Nested)} {acc : Operand}, 2 * k ≤ m + 1 →
    Extends k (bracketRest n f left acc) (bracketRest m f left acc)
  | 0, _, _, _, _, _, _ => .failure
  | _ + 1, k, 0, _, _, _, hm => by
      obtain rfl : k = 0 := by omega
      exact .zero
  | n + 1, k, m + 1, f, left, acc, hm => by
      have hrest : ∀ left acc, Extends (k - 1) (bracketRest n f left acc)
          (bracketRest m f left acc) := fun _ _ => extends_bracketRest n (by omega)
      rw [bracketRest, bracketRest]
      refine .bind_contained .rfl contained_skip fun _ => .bind_sees .rfl <|
        .bind_sees (.bind_contained .rfl exact_namedClass.attempt.contained fun class? => ?_) <|
          .bind_attempt consumes_setOp (fun _ => hrest ..) <|
            .bind_consumes consumes_bracketItem fun _ => hrest ..
      cases class? with
      | some set => exact hrest ..
      | none =>
          exact .bind_contained (extends_brackets n (by omega)) (contained_brackets ..) fun _ =>
            hrest ..

end

theorem extends_part (n : Nat) {k m : Nat} {f : Flags} {items : List Atom} {c : Char}
    (hm : 2 * k ≤ m) : Extends k (part n f items c) (part m f items c) := by
  unfold part
  split
  case h_5 =>
    exact .bind_contained (extends_brackets n hm) (contained_brackets n f) fun _ => .rfl
  all_goals exact .rfl

/-- Twice the length of a text is enough to read it. -/
theorem extends_branches (n : Nat) {k m : Nat} {done items : List Atom} {set : Setting}
    (hm : 2 * k ≤ m + 1) : Extends k (branches n done items set) (branches m done items set) := by
  induction n generalizing k m done items set with
  | zero => exact .failure
  | succ n ih =>
      cases m with
      | zero =>
          obtain rfl : k = 0 := by omega
          exact .zero
      | succ m =>
          have hrest : ∀ done items set, Extends (k - 1) (branches n done items set)
              (branches m done items set) := fun _ _ _ => ih (by omega)
          rw [branches, branches]
          refine .bind_contained .rfl contained_skip fun _ =>
            .bind_contained .rfl (Exact.ahead closes_append).contained fun _ => .ite .rfl <|
              .bind_consumes consumes_next fun _ => .ite (hrest ..) <| .ite ?_ ?_
          · refine .bind_contained .rfl (contained_opening set) fun start => ?_
            cases start with
            | setting f => exact hrest ..
            | inner kept inside =>
                exact .bind_contained (hrest ..) (contained_branches ..) fun _ =>
                  .bind_contained .rfl contained_close fun _ => hrest ..
          · exact .bind_contained (extends_part n (by omega)) (contained_part ..) fun _ => hrest ..

end Reading

end OfficeSchema.Pattern
