import Mathlib.Data.List.Infix
import OfficeSchema.Proofs.Particle.Projection

/-!
Words of a body put together again from words of its members: a word whose kinds come in the order
of the members is a word of the sequence, and no order is asked of an unordered group.
-/

namespace OfficeSchema

section Sorted

variable {α : Type} {l : List α}

theorem eq_filter_append_filter {P : α → Bool} (h : l.Pairwise (fun a b => P b → P a)) :
    l = l.filter P ++ l.filter (fun a => !P a) := by
  induction l with
  | nil => rfl
  | cons a l ih =>
      obtain ⟨ha, hl⟩ := List.pairwise_cons.mp h
      cases hP : P a with
      | true =>
          have := ih hl
          simpa [List.filter_cons, hP] using this
      | false =>
          have hnone : ∀ b ∈ l, P b = false := by
            intro b hb
            by_contra hPb
            have := ha b hb (by simpa using hPb)
            simp [hP] at this
          have hkeep : l.filter P = [] := List.filter_eq_nil_iff.mpr (by simpa using hnone)
          have hdrop : l.filter (fun a => !P a) = l :=
            List.filter_eq_self.mpr (by simpa using hnone)
          simp [hP, hkeep, hdrop]

theorem filter_infix_of_sorted {f : α → Nat} (h : l.Pairwise (fun a b => f a ≤ f b)) (i : Nat) :
    l.filter (fun a => f a = i) <:+: l := by
  have hlow : l = l.filter (fun a => f a < i) ++ l.filter (fun a => !decide (f a < i)) := by
    apply eq_filter_append_filter
    refine h.imp fun hab hb => ?_
    simp only [decide_eq_true_eq] at hb ⊢
    omega
  have hrest : (l.filter (fun a => !decide (f a < i))).Pairwise (fun a b => f a ≤ f b) :=
    h.sublist List.filter_sublist
  have hhigh := eq_filter_append_filter (P := fun a => decide (f a ≤ i))
    (hrest.imp fun hab hb => by simp only [decide_eq_true_eq] at hb ⊢; omega)
  have hmid : (l.filter (fun a => !decide (f a < i))).filter (fun a => decide (f a ≤ i)) =
      l.filter (fun a => f a = i) := by
    rw [List.filter_filter]
    apply List.filter_congr
    intro a _
    rw [Bool.eq_iff_iff]
    simp only [Bool.and_eq_true, decide_eq_true_eq, Bool.not_eq_true', decide_eq_false_iff_not]
    omega
  rw [hmid] at hhigh
  rw [hhigh] at hlow
  exact ⟨_, _, by rw [List.append_assoc, ← hlow]⟩

end Sorted

namespace Particle

variable {v : Version} {c : Compositor} {ps : List Particle} {w : List Kind}

theorem filter_not_filter_offered {p q : Particle} (hq : q ∈ ps)
    (hdisj : ∀ k ∈ p.offeredKinds v, ∀ k' ∈ kindsOf (restrictAll v ps), k ≠ k') :
    (w.filter (fun k => !decide (k ∈ p.offeredKinds v))).filter (fun k => k ∈ q.offeredKinds v) =
      w.filter (fun k => k ∈ q.offeredKinds v) := by
  rw [List.filter_filter]
  apply List.filter_congr
  intro k _
  by_cases hk : k ∈ q.offeredKinds v
  · obtain ⟨i, hi⟩ := List.mem_iff_getElem?.mp hq
    have hnot : k ∉ p.offeredKinds v :=
      fun hp => hdisj k hp k (mem_kindsOf_restrictAll.mpr ⟨i, q, hi, hk⟩) rfl
    simp [hk, hnot]
  · simp [hk]

theorem InOrder.tail {p : Particle} {k k' : Kind} (h : InOrder v (p :: ps) k k') :
    InOrder v ps k k' := by
  intro i j a b ha hb hka hkb
  exact Nat.le_of_succ_le_succ (h (i + 1) (j + 1) a b ha hb hka hkb)

theorem eq_append_of_inOrder {p : Particle}
    (hw : ∀ k ∈ w, k ∈ kindsOf (restrictAll v (p :: ps)))
    (hord : w.Pairwise (InOrder v (p :: ps))) :
    w = w.filter (fun k => k ∈ p.offeredKinds v) ++
      w.filter (fun k => !decide (k ∈ p.offeredKinds v)) := by
  apply eq_filter_append_filter
  refine hord.imp_of_mem ?_
  intro k k' hk _ hkk' hk'
  obtain ⟨i, q, hi, hq⟩ := mem_kindsOf_restrictAll.mp (hw k hk)
  have hle := hkk' i 0 q p hi rfl hq (by simpa using hk')
  obtain rfl : i = 0 := Nat.le_zero.mp hle
  obtain rfl : p = q := by simpa using hi
  simpa using hq

theorem mem_bodyWords_of_filters (hc : c ≠ .choice) (hn : (kindsOf (restrictAll v ps)).Nodup)
    (hw : ∀ k ∈ w, k ∈ kindsOf (restrictAll v ps))
    (hord : c = .sequence → w.Pairwise (InOrder v ps))
    (hp : ∀ p ∈ ps, p.isOffered v = true →
      w.filter (fun k => k ∈ p.offeredKinds v) ∈ (p.trim v).words) :
    w ∈ bodyWords c (restrictAll v ps) := by
  induction ps generalizing w with
  | nil =>
      obtain rfl : w = [] := List.eq_nil_iff_forall_not_mem.mpr fun k hk => nomatch hw k hk
      cases c with
      | sequence => exact Language.nil_mem_one
      | choice => exact absurd rfl hc
      | all => exact Language.nil_mem_one
  | cons p ps ih =>
      have hsplit := hn
      rw [restrictAll_cons, kindsOf_append, List.nodup_append] at hsplit
      obtain ⟨-, hps, hdisj⟩ := hsplit
      have hrest : w.filter (fun k => !decide (k ∈ p.offeredKinds v)) ∈
          bodyWords c (restrictAll v ps) := by
        refine ih hps (fun k hk => ?_) (fun hs => ?_) (fun q hq ho => ?_)
        · obtain ⟨hkw, hkp⟩ := List.mem_filter.mp hk
          have hall := hw k hkw
          rw [restrictAll_cons, kindsOf_append, List.mem_append] at hall
          rcases hall with hkp' | hks
          · simp only [Bool.not_eq_true', decide_eq_false_iff_not] at hkp
            exact absurd hkp' hkp
          · exact hks
        · exact ((hord hs).sublist List.filter_sublist).imp InOrder.tail
        · rw [filter_not_filter_offered hq hdisj]
          exact hp q (List.mem_cons_of_mem p hq) ho
      rw [restrictAll_cons, restrict_eq]
      split
      · next ho =>
          have hfirst := hp p List.mem_cons_self ho
          rw [List.singleton_append, bodyWords_cons]
          cases c with
          | sequence =>
              rw [eq_append_of_inOrder hw (hord rfl)]
              exact Language.append_mem_mul hfirst hrest
          | choice => exact absurd rfl hc
          | all => exact ⟨_, hfirst, _, hrest, Weaves.partition _ w⟩
      · next ho =>
          have hnone : w.filter (fun k => !decide (k ∈ p.offeredKinds v)) = w := by
            rw [List.filter_eq_self]
            intro k _
            have : k ∉ p.offeredKinds v := fun hk => ho (isOffered_of_mem_offeredKinds hk)
            simpa using this
          rw [hnone] at hrest
          exact hrest

theorem mem_pow_length {A : Language Kind} (h : ∀ k ∈ w, [k] ∈ A) : w ∈ A ^ w.length := by
  induction w with
  | nil => exact Language.nil_mem_one
  | cons k w ih =>
      rw [List.length_cons, pow_succ']
      exact Language.append_mem_mul (h k (by simp)) (ih fun k' hk' => h k' (by simp [hk']))

end Particle

end OfficeSchema
