import Mathlib.Algebra.Ring.Nat
import Mathlib.Data.List.Forall2
import Mathlib.Data.List.Nodup

namespace OfficeSchema

section Count

variable {α : Type} {P : α → Bool} {l : List α} {a b : α} {i j : Nat}

theorem countP_take_succ (ha : l[i]? = some a) (hP : P a = true) :
    (l.take (i + 1)).countP P = (l.take i).countP P + 1 := by
  rw [List.take_add_one, ha, List.countP_append]
  simp [hP]

theorem countP_take_lt (ha : l[i]? = some a) (hP : P a = true) (h : i < j) :
    (l.take i).countP P < (l.take j).countP P := by
  have hle : (l.take (i + 1)).countP P ≤ (l.take j).countP P :=
    (List.take_sublist_take_left h).countP_le
  rwa [countP_take_succ ha hP] at hle

theorem countP_take_lt_iff (ha : l[i]? = some a) (hPa : P a = true) (hb : l[j]? = some b)
    (hPb : P b = true) : (l.take i).countP P < (l.take j).countP P ↔ i < j := by
  constructor
  · intro h
    rcases Nat.lt_trichotomy i j with hlt | rfl | hgt
    · exact hlt
    · exact absurd h (Nat.lt_irrefl _)
    · exact absurd h (Nat.not_lt_of_lt (countP_take_lt hb hPb hgt))
  · exact countP_take_lt ha hPa

theorem countP_take_inj (ha : l[i]? = some a) (hPa : P a = true) (hb : l[j]? = some b)
    (hPb : P b = true) (h : (l.take i).countP P = (l.take j).countP P) : i = j := by
  have hij := countP_take_lt_iff ha hPa hb hPb
  have hji := countP_take_lt_iff hb hPb ha hPa
  omega

theorem countP_mem_of_sublist [DecidableEq α] {s : List α} (hl : l.Nodup) (h : s.Sublist l) :
    l.countP (· ∈ s) = s.length := by
  rw [List.countP_eq_length_filter]
  apply List.Perm.length_eq
  rw [List.perm_ext_iff_of_nodup (hl.filter _) (hl.sublist h)]
  intro a
  rw [List.mem_filter, decide_eq_true_eq]
  exact ⟨fun ha => ha.2, fun ha => ⟨h.subset ha, ha⟩⟩

end Count

section Sum

variable {α : Type} {l : List α} {f f' : α → Nat} {p : α → Bool}

theorem sum_map_add_countP (h : ∀ a ∈ l, f' a = f a + if p a then 1 else 0) :
    (l.map f').sum = (l.map f).sum + l.countP p := by
  induction l with
  | nil => rfl
  | cons a l ih =>
      have ha := h a (by simp)
      have hl := ih fun b hb => h b (by simp [hb])
      rw [List.map_cons, List.map_cons, List.sum_cons, List.sum_cons, List.countP_cons, ha, hl]
      omega

theorem sum_map_eq_zero (h : ∀ a ∈ l, f a = 0) : (l.map f).sum = 0 := by
  induction l with
  | nil => rfl
  | cons a l ih => simp [h a (by simp), ih fun b hb => h b (by simp [hb])]

end Sum

theorem append_cons_inj {α : Type} {xs ys s t : List α} {a : α} (hx : a ∉ xs) (hy : a ∉ ys)
    (h : xs ++ a :: s = ys ++ a :: t) : xs = ys ∧ s = t := by
  induction xs generalizing ys with
  | nil =>
      cases ys with
      | nil => exact ⟨rfl, (List.cons.inj h).2⟩
      | cons y ys =>
          obtain rfl := (List.cons.inj h).1
          exact absurd List.mem_cons_self hy
  | cons x xs ih =>
      cases ys with
      | nil =>
          obtain rfl := (List.cons.inj h).1
          exact absurd List.mem_cons_self hx
      | cons y ys =>
          obtain ⟨rfl, hrest⟩ := List.cons.inj h
          obtain ⟨rfl, rfl⟩ := ih (fun hm => hx (.tail _ hm)) (fun hm => hy (.tail _ hm)) hrest
          exact ⟨rfl, rfl⟩

section First

variable {α : Type} {r : α → α → Bool} {xs ys : List α} {a : α}

theorem eraseDupsBy_eq_self (h : xs.Pairwise (fun a b => r b a = false)) :
    xs.eraseDupsBy r = xs := by
  induction xs with
  | nil => rfl
  | cons x xs ih =>
      obtain ⟨hx, hxs⟩ := List.pairwise_cons.mp h
      rw [List.eraseDupsBy_cons, List.filter_eq_self.mpr (by simpa using hx), ih hxs]

theorem eraseDupsBy_append_cons (hr : ∀ a b c, r a b = true → r b c = true → r a c = true)
    (h : ∃ b ∈ xs, r a b = true) : (xs ++ a :: ys).eraseDupsBy r = (xs ++ ys).eraseDupsBy r := by
  induction hn : xs.length using Nat.strong_induction_on generalizing xs ys with
  | _ n ih =>
      cases xs with
      | nil => simp at h
      | cons x xs =>
          rw [List.cons_append, List.cons_append, List.eraseDupsBy_cons, List.eraseDupsBy_cons,
            List.filter_append, List.filter_append, List.filter_cons]
          cases hx : r a x with
          | true => simp
          | false =>
              -- what `a` is like is not like the head, so that it is left
              obtain ⟨b, hb, hab⟩ := h
              have hbx : r b x = false :=
                Bool.eq_false_iff.mpr fun hbx => by simp [hr a b x hab hbx] at hx
              have hmem : b ∈ xs := by
                rcases List.mem_cons.mp hb with rfl | hb
                · simp [hab] at hx
                · exact hb
              have hlt : (xs.filter (fun c => decide (r c x = false))).length < n := by
                rw [← hn]
                exact Nat.lt_succ_of_le (List.length_filter_le _ _)
              rw [if_pos (by simp),
                ih _ hlt ⟨b, List.mem_filter.mpr ⟨hmem, by simpa using hbx⟩, hab⟩ rfl]

end First

section Modify

variable {α β : Type} {l : List α} {i : Nat} {a : α}

theorem modify_eq_of_getElem? (h : l[i]? = some a) (f : α → α) :
    l.modify i f = l.take i ++ f a :: l.drop (i + 1) := by
  obtain ⟨hi, rfl⟩ := List.getElem?_eq_some_iff.mp h
  exact List.modify_eq_take_cons_drop hi

theorem map_modify_of_eq (h : l[i]? = some a) {f : α → α} {g : α → β} (hfg : g (f a) = g a) :
    (l.modify i f).map g = l.map g := by
  obtain ⟨hi, rfl⟩ := List.getElem?_eq_some_iff.mp h
  rw [List.modify_eq_take_cons_drop hi, List.map_append, List.map_cons, hfg, ← List.map_cons,
    ← List.map_append, List.getElem_cons_drop, List.take_append_drop]

end Modify

section Key

variable {α κ : Type} {l : List α} {key : α → κ} {a : α} {k : κ}

theorem nodup_map_concat :
    ((l ++ [a]).map key).Nodup ↔ key a ∉ l.map key ∧ (l.map key).Nodup := by
  rw [List.map_append, List.map_singleton, ← List.concat_eq_append, List.nodup_concat]

variable [BEq κ] [LawfulBEq κ]

theorem find?_key_eq_some_iff (h : (l.map key).Nodup) :
    l.find? (fun x => key x == k) = some a ↔ a ∈ l ∧ key a = k := by
  constructor
  · intro hf
    exact ⟨List.mem_of_find?_eq_some hf, by simpa using List.find?_some hf⟩
  · rintro ⟨ha, rfl⟩
    obtain ⟨b, hb⟩ : ∃ b, l.find? (fun x => key x == key a) = some b := by
      rw [← Option.isSome_iff_exists, List.find?_isSome]
      exact ⟨a, ha, by simp⟩
    have hkey : key b = key a := by simpa using List.find?_some hb
    rw [hb, List.inj_on_of_nodup_map h (List.mem_of_find?_eq_some hb) ha hkey]

theorem find?_key_eq_none_iff : l.find? (fun x => key x == k) = none ↔ k ∉ l.map key := by
  simp [List.find?_eq_none]

theorem lookup_cons_ite {β : Type} (k x : κ) (b : β) (l : List (κ × β)) [Decidable (k = x)] :
    ((k, b) :: l).lookup x = if k = x then some b else l.lookup x := by
  rw [List.lookup_cons]
  split
  · next h => rw [if_pos (eq_of_beq h).symm]
  · next h => rw [if_neg fun hk => by simp [hk] at h]

theorem lookup_eq_none_of_not_mem {β : Type} {l : List (κ × β)} (h : k ∉ l.map Prod.fst) :
    l.lookup k = none := by
  rw [List.lookup_eq_none_iff]
  intro p hp
  rw [bne_iff_ne]
  rintro rfl
  exact h (List.mem_map_of_mem hp)

end Key

section Step

variable {α β γ : Type} {R : α → β → Prop} {as : List α} {bs : List β}

theorem exists_mem_iff_of_forall₂ (h : List.Forall₂ R as bs) {P : α → Prop} {Q : β → Prop}
    (hPQ : ∀ a b, R a b → (P a ↔ Q b)) : (∃ a ∈ as, P a) ↔ ∃ b ∈ bs, Q b := by
  induction h with
  | nil => simp
  | cons hab _ ih => simp [hPQ _ _ hab, ih]

theorem forall_mem_of_forall₂ (h : List.Forall₂ R as bs) {Q : β → Prop}
    (hQ : ∀ a b, R a b → Q b) : ∀ b ∈ bs, Q b := by
  induction h with
  | nil => simp
  | cons hab _ ih =>
      rw [List.forall_mem_cons]
      exact ⟨hQ _ _ hab, ih⟩

theorem exists_related_of_mem (h : List.Forall₂ R as bs) {a : α} (ha : a ∈ as) :
    ∃ b ∈ bs, R a b := by
  induction h with
  | nil => simp at ha
  | cons hab _ ih =>
      rcases List.mem_cons.mp ha with rfl | ha
      · exact ⟨_, List.mem_cons_self, hab⟩
      · obtain ⟨b, hb, hab⟩ := ih ha
        exact ⟨b, List.mem_cons_of_mem _ hb, hab⟩

theorem exists_append_of_forall₂ {as as' : List α} (h : List.Forall₂ R (as ++ as') bs) :
    ∃ cs ds, bs = cs ++ ds ∧ List.Forall₂ R as cs ∧ List.Forall₂ R as' ds := by
  induction as generalizing bs with
  | nil => exact ⟨[], bs, rfl, .nil, h⟩
  | cons a as ih =>
      cases h with
      | @cons _ b _ bs hab h =>
          obtain ⟨cs, ds, rfl, hcs, hds⟩ := ih h
          exact ⟨b :: cs, ds, rfl, .cons hab hcs, hds⟩

theorem map_eq_of_forall₂ (h : List.Forall₂ R as bs) {f : α → γ} {g : β → γ}
    (hfg : ∀ a b, R a b → f a = g b) : as.map f = bs.map g := by
  induction h with
  | nil => rfl
  | cons hab _ ih => rw [List.map_cons, List.map_cons, hfg _ _ hab, ih]

theorem map_filter_eq_of_forall₂ (h : List.Forall₂ R as bs) {P : α → Bool} {Q : β → Bool}
    {f : α → γ} {g : β → γ} (hPQ : ∀ a b, R a b → P a = Q b) (hfg : ∀ a b, R a b → f a = g b) :
    (as.filter P).map f = (bs.filter Q).map g := by
  induction h with
  | nil => rfl
  | @cons a b as bs hab _ ih =>
      rw [List.filter_cons, List.filter_cons, hPQ a b hab]
      split
      · rw [List.map_cons, List.map_cons, ih, hfg a b hab]
      · exact ih

theorem find?_of_forall₂ (h : List.Forall₂ R as bs) {P : α → Bool} {Q : β → Bool}
    (hPQ : ∀ a b, R a b → P a = Q b) : as.find? P = none ∧ bs.find? Q = none ∨
      ∃ a b, as.find? P = some a ∧ bs.find? Q = some b ∧ R a b := by
  induction h with
  | nil => exact .inl ⟨rfl, rfl⟩
  | @cons a b as bs hab _ ih =>
      rw [List.find?_cons, List.find?_cons, hPQ a b hab]
      cases Q b
      · exact ih
      · exact .inr ⟨a, b, rfl, rfl, hab⟩

theorem getElem?_of_forall₂ (h : List.Forall₂ R as bs) (i : Nat) : as[i]? = none ∧ bs[i]? = none ∨
    ∃ a b, as[i]? = some a ∧ bs[i]? = some b ∧ R a b := by
  induction h generalizing i with
  | nil => exact .inl ⟨rfl, rfl⟩
  | @cons a b as bs hab _ ih =>
      cases i with
      | zero => exact .inr ⟨a, b, rfl, rfl, hab⟩
      | succ i => exact ih i

theorem forall₂_zipIdx (h : List.Forall₂ R as bs) (n : Nat) :
    List.Forall₂ (fun a b => R a.1 b.1 ∧ a.2 = b.2) (as.zipIdx n) (bs.zipIdx n) := by
  induction h generalizing n with
  | nil => exact .nil
  | cons hab _ ih => exact .cons ⟨hab, rfl⟩ (ih (n + 1))

theorem filterMap_eq_of_keys {as bs : List (Nat × Nat)} {f g : Nat × Nat → Option γ}
    (h : as.map (fun c => (c.1, 0)) = bs.map (fun c => (c.1, 0)))
    (hfg : ∀ a ∈ as, ∀ b ∈ bs, a.1 = b.1 → f a = g b) : as.filterMap f = bs.filterMap g := by
  induction as generalizing bs with
  | nil =>
      obtain rfl : bs = [] := by simpa using h.symm
      rfl
  | cons a as ih =>
      cases bs with
      | nil => simp at h
      | cons b bs =>
          simp only [List.map_cons, List.cons.injEq, Prod.mk.injEq, and_true] at h
          rw [List.filterMap_cons, List.filterMap_cons, hfg a (by simp) b (by simp) h.1,
            ih h.2 fun a ha b hb => hfg a (by simp [ha]) b (by simp [hb])]

end Step

end OfficeSchema
