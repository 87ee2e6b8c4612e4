import OfficeSchema.Proofs.Particle.Words

/-!
Words of the members inside the words of a body. When members share no kind, the kinds of one
member, taken out of a repeated body, spell a repeated word of that member.
-/

namespace OfficeSchema

namespace Compositor

variable {c : Compositor} {A B : Language Kind} {P : Kind → Bool} {w : List Kind}

theorem mem_of_mem_join (h : w ∈ c.join A B) {k : Kind} (hk : k ∈ w) :
    (∃ u ∈ A, k ∈ u) ∨ ∃ u ∈ B, k ∈ u := by
  cases c with
  | sequence =>
      obtain ⟨a, ha, b, hb, rfl⟩ := Language.mem_mul.mp h
      rcases List.mem_append.mp hk with hk | hk
      · exact .inl ⟨a, ha, hk⟩
      · exact .inr ⟨b, hb, hk⟩
  | choice =>
      rcases (Language.mem_add _ _ _).mp h with h | h
      · exact .inl ⟨w, h, hk⟩
      · exact .inr ⟨w, h, hk⟩
  | all =>
      obtain ⟨a, ha, b, hb, hw⟩ := h
      rcases (hw.mem_iff k).mp hk with hk | hk
      · exact .inl ⟨a, ha, hk⟩
      · exact .inr ⟨b, hb, hk⟩

theorem shares_zero : c.Shares 0 0 0 := by
  cases c <;> simp [Shares]

theorem Shares.add {n a b n' a' b' : Nat} (h : c.Shares n a b) (h' : c.Shares n' a' b') :
    c.Shares (n + n') (a + a') (b + b') := by
  cases c <;> simp only [Shares] at * <;> omega

theorem filter_mem_of_mem_join (hA : ∀ u ∈ A, ∀ k ∈ u, P k = true)
    (hB : ∀ u ∈ B, ∀ k ∈ u, P k = false) (h : w ∈ c.join A B) :
    ∃ a b, c.Shares 1 a b ∧ w.filter P ∈ A ^ a ∧ w.filter (fun k => !P k) ∈ B ^ b := by
  have keep (u) (hu : u ∈ A) : u.filter P = u ∧ u.filter (fun k => !P k) = [] := by
    simpa [List.filter_eq_self, List.filter_eq_nil_iff] using hA u hu
  have drop (u) (hu : u ∈ B) : u.filter P = [] ∧ u.filter (fun k => !P k) = u := by
    simpa [List.filter_eq_self, List.filter_eq_nil_iff] using hB u hu
  cases c with
  | sequence =>
      obtain ⟨a, ha, b, hb, rfl⟩ := Language.mem_mul.mp h
      refine ⟨1, 1, ⟨rfl, rfl⟩, ?_, ?_⟩
      · simpa [(keep a ha).1, (drop b hb).1] using ha
      · simpa [(keep a ha).2, (drop b hb).2] using hb
  | choice =>
      rcases (Language.mem_add _ _ _).mp h with h | h
      · refine ⟨1, 0, rfl, ?_, ?_⟩
        · simpa [(keep w h).1] using h
        · simp [(keep w h).2]
      · refine ⟨0, 1, rfl, ?_, ?_⟩
        · simp [(drop w h).1]
        · simpa [(drop w h).2] using h
  | all =>
      obtain ⟨a, ha, b, hb, hw⟩ := h
      refine ⟨1, 1, ⟨rfl, rfl⟩, ?_, ?_⟩
      · have hf := hw.filter P
        rw [(keep a ha).1, (drop b hb).1] at hf
        simpa [hf.eq_left] using ha
      · have hf := hw.filter (fun k => !P k)
        rw [(keep a ha).2, (drop b hb).2] at hf
        simpa [hf.eq_right] using hb

theorem filter_mem_of_mem_join_pow (hA : ∀ u ∈ A, ∀ k ∈ u, P k = true)
    (hB : ∀ u ∈ B, ∀ k ∈ u, P k = false) {n : Nat} (h : w ∈ c.join A B ^ n) :
    ∃ a b, c.Shares n a b ∧ w.filter P ∈ A ^ a ∧ w.filter (fun k => !P k) ∈ B ^ b := by
  induction n generalizing w with
  | zero =>
      obtain rfl : w = [] := by simpa using h
      exact ⟨0, 0, shares_zero, by simp, by simp⟩
  | succ n ih =>
      rw [pow_succ, Language.mem_mul] at h
      obtain ⟨u, hu, x, hx, rfl⟩ := h
      obtain ⟨a, b, hs, ha, hb⟩ := ih hu
      obtain ⟨a', b', hs', ha', hb'⟩ := filter_mem_of_mem_join hA hB hx
      refine ⟨a + a', b + b', hs.add hs', ?_, ?_⟩
      · rw [List.filter_append, pow_add]
        exact Language.append_mem_mul ha ha'
      · rw [List.filter_append, pow_add]
        exact Language.append_mem_mul hb hb'

end Compositor

namespace Particle

variable {c : Compositor} {ps qs : List Particle} {w : List Kind}

theorem bodyWords_cons (c : Compositor) (p : Particle) (ps : List Particle) :
    bodyWords c (p :: ps) = c.join (words p) (bodyWords c ps) := rfl

theorem mem_kinds_of_mem_words {p : Particle} (h : w ∈ words p) {k : Kind} (hk : k ∈ w) :
    k ∈ p.kinds := by
  induction p generalizing w with
  | leaf l =>
      obtain ⟨n, -, hn⟩ := h
      rw [eq_replicate_of_mem_pow hn] at hk
      simpa [kinds, leaves] using (List.mem_replicate.mp hk).2
  | group c o members ih =>
      obtain ⟨n, -, hn⟩ := h
      obtain ⟨u, hu, hku⟩ := mem_of_mem_pow hn hk
      clear hn hk
      rw [kinds_group, mem_kindsOf]
      induction members generalizing u with
      | nil =>
          cases c <;> simp [bodyWords, Compositor.unit] at hu <;> simp [hu] at hku
      | cons m ms ihs =>
          rcases Compositor.mem_of_mem_join hu hku with ⟨x, hx, hkx⟩ | ⟨x, hx, hkx⟩
          · exact ⟨m, by simp, ih m (by simp) hx hkx⟩
          · obtain ⟨q, hq, hkq⟩ := ihs (fun m hm => ih m (by simp [hm])) x hx hkx
            exact ⟨q, by simp [hq], hkq⟩

theorem mem_kindsOf_of_mem_bodyWords (h : w ∈ bodyWords c ps) {k : Kind} (hk : k ∈ w) :
    k ∈ kindsOf ps := by
  have hg : w ∈ words (group c .once ps) := ⟨1, by simp [Occurs.Admits, Occurs.once], by simpa⟩
  simpa [kinds_group] using mem_kinds_of_mem_words hg hk

theorem exists_mem_bodyWords_pow {q : Particle} (hq : q ∈ ps) (hn : (kindsOf ps).Nodup) {n : Nat}
    (h : w ∈ bodyWords c ps ^ n) :
    ∃ j ≤ n, w.filter (fun k => k ∈ q.kinds) ∈ words q ^ j ∧
      (c ≠ .choice ∨ ps.length = 1 → j = n) := by
  induction ps generalizing w n with
  | nil => simp at hq
  | cons p ps ih =>
      rw [kindsOf_cons, List.nodup_append] at hn
      obtain ⟨-, hps, hdisj⟩ := hn
      rw [bodyWords_cons] at h
      obtain ⟨a, b, hs, ha, hb⟩ := Compositor.filter_mem_of_mem_join_pow
        (P := fun k => decide (k ∈ p.kinds))
        (fun u hu k hk => by simpa using mem_kinds_of_mem_words hu hk)
        (fun u hu k hk => by
          simpa using fun hp => hdisj k hp k (mem_kindsOf_of_mem_bodyWords hu hk) rfl) h
      rcases List.mem_cons.mp hq with rfl | hq
      · refine ⟨a, hs.le.1, ha, ?_⟩
        rintro (hc | hl)
        · exact (hs.eq hc).1
        · obtain rfl : ps = [] := by simpa using hl
          cases c with
          | sequence => exact hs.1
          | choice =>
              have := eq_nil_of_mem_zero_pow hb
              have : a + b = n := hs
              omega
          | all => exact hs.1
      · obtain ⟨j, hj, hw, he⟩ := ih hq hps hb
        refine ⟨j, hj.trans hs.le.2, ?_, ?_⟩
        · rw [List.filter_filter] at hw
          rwa [List.filter_congr (q := fun k => decide (k ∈ q.kinds))] at hw
          intro k hk
          by_cases hkq : k ∈ q.kinds
          · have : k ∉ p.kinds := fun hp => hdisj k hp k (mem_kindsOf.mpr ⟨q, hq, hkq⟩) rfl
            simp [hkq, this]
          · simp [hkq]
        · rintro (hc | hl)
          · rw [he (.inl hc), (hs.eq hc).2]
          · obtain rfl : ps = [] := by simpa using hl
            simp at hq

theorem mem_bodyWords_choice : w ∈ bodyWords .choice ps ↔ ∃ q ∈ ps, w ∈ words q := by
  induction ps with
  | nil => simp [bodyWords, Compositor.unit]
  | cons p ps ih => simp [bodyWords_cons, Compositor.join, Language.mem_add, ih]

theorem bodyWords_sequence_append (ps qs : List Particle) :
    bodyWords .sequence (ps ++ qs) = bodyWords .sequence ps * bodyWords .sequence qs := by
  induction ps with
  | nil => simp [bodyWords, Compositor.unit]
  | cons p ps ih => simp [bodyWords_cons, Compositor.join, ih, mul_assoc]

def InOrder (v : Version) (ps : List Particle) (k k' : Kind) : Prop :=
  ∀ (i j : Nat) (p q : Particle), ps[i]? = some p → ps[j]? = some q → k ∈ p.offeredKinds v →
    k' ∈ q.offeredKinds v → i ≤ j

theorem inOrder_of_mem_sequence {v : Version} (hn : (kindsOf (restrictAll v ps)).Nodup)
    (h : w ∈ bodyWords .sequence (restrictAll v ps)) : w.Pairwise (InOrder v ps) := by
  induction ps generalizing w with
  | nil =>
      obtain rfl : w = [] := h
      exact .nil
  | cons p ps ih =>
      rw [restrictAll_cons, kindsOf_append, List.nodup_append] at hn
      obtain ⟨-, hps, hdisj⟩ := hn
      rw [restrictAll_cons, bodyWords_sequence_append] at h
      obtain ⟨u, hu, x, hx, rfl⟩ := Language.mem_mul.mp h
      -- a kind of the first member stands for no later one, and the other way round
      have first (k) (hk : k ∈ u) (i q) (hq : (p :: ps)[i]? = some q)
          (hkq : k ∈ q.offeredKinds v) : i = 0 := by
        cases i with
        | zero => rfl
        | succ i =>
            exact absurd rfl
              (hdisj k (mem_kindsOf_of_mem_bodyWords hu hk) k
                (mem_kindsOf_restrictAll.mpr ⟨i, q, hq, hkq⟩))
      have later (k) (hk : k ∈ x) (i q) (hq : (p :: ps)[i]? = some q)
          (hkq : k ∈ q.offeredKinds v) : i ≠ 0 := by
        rintro rfl
        obtain rfl : p = q := by simpa using hq
        exact hdisj k hkq k (mem_kindsOf_of_mem_bodyWords hx hk) rfl
      refine List.pairwise_append.mpr ⟨?_, ?_, ?_⟩
      · apply List.pairwise_of_forall_mem_list
        intro k hk k' hk' i j a b ha hb hka hkb
        have := first k hk i a ha hka
        omega
      · refine (ih hps hx).imp_of_mem ?_
        intro k k' hk hk' hord i j a b ha hb hka hkb
        cases i with
        | zero => exact Nat.zero_le _
        | succ i =>
            cases j with
            | zero => exact absurd rfl (later k' hk' 0 b hb hkb)
            | succ j => exact Nat.succ_le_succ (hord i j a b ha hb hka hkb)
      · intro k hk k' hk' i j a b ha hb hka hkb
        have := first k hk i a ha hka
        omega

theorem exists_indices_of_mem_choice_pow {v : Version} {n : Nat}
    (h : w ∈ bodyWords .choice (restrictAll v ps) ^ n) :
    ∃ is : List Nat, is.length = n ∧
      ∀ k ∈ w, ∃ i ∈ is, ∃ p, ps[i]? = some p ∧ k ∈ p.offeredKinds v := by
  induction n generalizing w with
  | zero =>
      obtain rfl : w = [] := by simpa using h
      exact ⟨[], rfl, by simp⟩
  | succ n ih =>
      rw [pow_succ, Language.mem_mul] at h
      obtain ⟨u, hu, x, hx, rfl⟩ := h
      obtain ⟨is, hlen, his⟩ := ih hu
      obtain ⟨q, hq, hxq⟩ := mem_bodyWords_choice.mp hx
      obtain ⟨p, hp, hoff, rfl⟩ := mem_restrictAll.mp hq
      obtain ⟨i, hi⟩ := List.mem_iff_getElem?.mp hp
      refine ⟨i :: is, by simp [hlen], fun k hk => ?_⟩
      rcases List.mem_append.mp hk with hk | hk
      · obtain ⟨a, ha, hak⟩ := his k hk
        exact ⟨a, List.mem_cons_of_mem i ha, hak⟩
      · refine ⟨i, List.mem_cons_self, p, hi, ?_⟩
        rw [offeredKinds_of_offered hoff]
        exact mem_kinds_of_mem_words hxq hk

end Particle

end OfficeSchema
