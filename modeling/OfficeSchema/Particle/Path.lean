import OfficeSchema.Particle.Basic

/-!
Places in a content model. A step counts members of a sequence by position and members of an
unordered group by alternative. Paths are ordered step by step; a path comes before its extensions.
-/

namespace OfficeSchema

structure Step where
  position : Nat
  alternative : Nat
  deriving DecidableEq, Repr, Inhabited

namespace Step

def compare (a b : Step) : Ordering :=
  (Ord.compare a.position b.position).then (Ord.compare a.alternative b.alternative)

def toMember (c : Compositor) (i : Nat) : Step :=
  if c.isUnordered then ⟨0, i⟩ else ⟨i, 0⟩

def text (s : Step) : String :=
  if s.alternative = 0 then toString s.position
  else toString s.position ++ "|" ++ toString s.alternative

end Step

abbrev Path := List Step

namespace Path

def shared : Path → Path → Nat
  | a :: p, b :: q => if a = b then shared p q + 1 else 0
  | _, _ => 0

def divergence? (p q : Path) : Option Nat :=
  let n := shared p q
  if n = p.length ∧ n = q.length then none else some n

theorem shared_self (p : Path) : shared p p = p.length := by
  induction p with
  | nil => rfl
  | cons a p ih => simp [shared, ih]

theorem divergence?_self (p : Path) : divergence? p p = none := by
  simp [divergence?, shared_self]

def sharesPrefix (p q : Path) (n : Nat) : Bool :=
  n ≤ p.length && n ≤ q.length && p.take n == q.take n

def compare : Path → Path → Ordering
  | [], [] => .eq
  | [], _ :: _ => .lt
  | _ :: _, [] => .gt
  | a :: p, b :: q => (a.compare b).then (compare p q)

def text (p : Path) : String := "/" ++ Text.sepBy "/" (p.map Step.text)

end Path

end OfficeSchema
