import Mathlib.Computability.Language
import OfficeSchema.Proofs.Particle.Members

/-!
The words that a content model allows, as languages over kinds. A leaf repeats its kind, a group
repeats words of its body, and a body joins the words of its members under the compositor.
-/

namespace OfficeSchema

inductive Weaves {α : Type} : List α → List α → List α → Prop
  | nil : Weaves [] [] []
  | left {a : α} {u v w : List α} : Weaves u v w → Weaves (a :: u) v (a :: w)
  | right {a : α} {u v w : List α} : Weaves u v w → Weaves u (a :: v) (a :: w)

namespace Weaves

variable {α : Type} {u v w : List α}

theorem mem_iff (h : Weaves u v w) (a : α) : a ∈ w ↔ a ∈ u ∨ a ∈ v := by
  induction h with
  | nil => simp
  | left _ ih => simp [ih, or_assoc]
  | right _ ih => simp [ih, or_left_comm]

theorem filter (h : Weaves u v w) (P : α → Bool) :
    Weaves (u.filter P) (v.filter P) (w.filter P) := by
  induction h with
  | nil => exact .nil
  | @left a u v w _ ih =>
      cases ha : P a with
      | true => simpa [List.filter_cons, ha] using ih.left
      | false => simpa [List.filter_cons, ha] using ih
  | @right a u v w _ ih =>
      cases ha : P a with
      | true => simpa [List.filter_cons, ha] using ih.right
      | false => simpa [List.filter_cons, ha] using ih

theorem eq_left (h : Weaves u [] w) : w = u := by
  induction u generalizing w with
  | nil => cases h; rfl
  | cons a u ih =>
      cases h with
      | left h => rw [ih h]

theorem eq_right (h : Weaves [] v w) : w = v := by
  induction v generalizing w with
  | nil => cases h; rfl
  | cons a v ih =>
      cases h with
      | right h => rw [ih h]

theorem partition (P : α → Bool) (w : List α) :
    Weaves (w.filter P) (w.filter (fun a => !P a)) w := by
  induction w with
  | nil => exact .nil
  | cons a w ih =>
      cases ha : P a with
      | true => simpa [List.filter_cons, ha] using ih.left
      | false => simpa [List.filter_cons, ha] using ih.right

end Weaves

def Occurs.Admits (o : Occurs) (n : Nat) : Prop := o.min ≤ n ∧ ∀ m, o.max = some m → n ≤ m

def repeated (o : Occurs) (A : Language Kind) : Language Kind :=
  {w | ∃ n, o.Admits n ∧ w ∈ A ^ n}

namespace Compositor

def unit : Compositor → Language Kind
  | .sequence => 1
  | .choice => 0
  | .all => 1

def join : Compositor → Language Kind → Language Kind → Language Kind
  | .sequence, A, B => A * B
  | .choice, A, B => A + B
  | .all, A, B => {w | ∃ a ∈ A, ∃ b ∈ B, Weaves a b w}

def Shares : Compositor → Nat → Nat → Nat → Prop
  | .choice, n, a, b => a + b = n
  | _, n, a, b => a = n ∧ b = n

theorem Shares.le {c : Compositor} {n a b : Nat} (h : c.Shares n a b) : a ≤ n ∧ b ≤ n := by
  cases c <;> simp only [Shares] at h <;> omega

theorem Shares.eq {c : Compositor} {n a b : Nat} (h : c.Shares n a b) (hc : c ≠ .choice) :
    a = n ∧ b = n := by
  cases c with
  | sequence => exact h
  | choice => exact absurd rfl hc
  | all => exact h

end Compositor

namespace Particle

mutual

def words : Particle → Language Kind
  | .leaf l => repeated l.occurs {[l.kind]}
  | .group c o members => repeated o (bodyWords c members)

def bodyWords (c : Compositor) : List Particle → Language Kind
  | [] => c.unit
  | p :: ps => c.join (words p) (bodyWords c ps)

end

/-- The words of a content model in a version: what the version lacks is deleted first. -/
def language (v : Version) (p : Particle) : Language Kind := bodyWords .sequence (p.restrict v)

end Particle

theorem mem_of_mem_pow {A : Language Kind} {n : Nat} {w : List Kind} (h : w ∈ A ^ n) {k : Kind}
    (hk : k ∈ w) : ∃ u ∈ A, k ∈ u := by
  obtain ⟨S, rfl, -, hS⟩ := Language.mem_pow.mp h
  obtain ⟨u, hu, hku⟩ := List.mem_flatten.mp hk
  exact ⟨u, hS u hu, hku⟩

theorem eq_nil_of_mem_zero_pow {n : Nat} {w : List Kind} (h : w ∈ (0 : Language Kind) ^ n) :
    n = 0 := by
  cases n with
  | zero => rfl
  | succ n => simp [pow_succ] at h

theorem ne_nil_of_mem_pow {A : Language Kind} {n : Nat} {w : List Kind} (h : w ∈ A ^ n)
    (hA : [] ∉ A) (hn : n ≠ 0) : w ≠ [] := by
  obtain ⟨m, rfl⟩ := Nat.exists_eq_succ_of_ne_zero hn
  rw [pow_succ, Language.mem_mul] at h
  obtain ⟨u, -, x, hx, rfl⟩ := h
  intro he
  exact hA ((List.append_eq_nil_iff.mp he).2 ▸ hx)

theorem mem_pow_of_mem_repeated_pow {o : Occurs} {A : Language Kind} {j : Nat} {w : List Kind}
    (h : w ∈ repeated o A ^ j) :
    ∃ n, w ∈ A ^ n ∧ j * o.min ≤ n ∧ (∀ m, o.max = some m → n ≤ j * m) ∧ (j = 0 → n = 0) := by
  induction j generalizing w with
  | zero => exact ⟨0, by simpa using h, by simp, by simp, fun _ => rfl⟩
  | succ j ih =>
      rw [pow_succ, Language.mem_mul] at h
      obtain ⟨u, hu, x, ⟨k, hk, hx⟩, rfl⟩ := h
      obtain ⟨n, hn, hmin, hmax, -⟩ := ih hu
      refine ⟨n + k, ?_, ?_, ?_, by simp⟩
      · rw [pow_add]
        exact Language.append_mem_mul hn hx
      · have := hk.1
        rw [Nat.succ_mul]
        omega
      · intro m hm
        have := hmax m hm
        have := hk.2 m hm
        rw [Nat.succ_mul]
        omega

theorem eq_replicate_of_mem_pow {k : Kind} {n : Nat} {w : List Kind}
    (h : w ∈ ({[k]} : Language Kind) ^ n) : w = List.replicate n k := by
  induction n generalizing w with
  | zero => simpa using h
  | succ n ih =>
      rw [pow_succ, Language.mem_mul] at h
      obtain ⟨u, hu, x, hx, rfl⟩ := h
      obtain rfl : x = [k] := hx
      rw [ih hu, List.replicate_succ']

theorem replicate_mem_pow (k : Kind) (n : Nat) :
    List.replicate n k ∈ ({[k]} : Language Kind) ^ n := by
  induction n with
  | zero => exact Language.nil_mem_one
  | succ n ih =>
      rw [pow_succ, List.replicate_succ']
      exact Language.append_mem_mul ih rfl

end OfficeSchema
