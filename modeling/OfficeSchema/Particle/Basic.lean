import OfficeSchema.Particle.Occurs

namespace OfficeSchema

inductive Compositor where
  | sequence
  | choice
  | all
  deriving DecidableEq, Repr, Inhabited

namespace Compositor

def name : Compositor → String
  | .sequence => "sequence"
  | .choice => "choice"
  | .all => "all"

def ofName? : String → Option Compositor
  | "sequence" => some .sequence
  | "choice" => some .choice
  | "all" => some .all
  | _ => none

theorem ofName?_name (c : Compositor) : ofName? c.name = some c := by
  cases c <;> rfl

def isUnordered : Compositor → Bool
  | .sequence => false
  | .choice => true
  | .all => true

end Compositor

structure Leaf where
  kind : Kind
  occurs : Occurs
  gate : Option Version
  deriving DecidableEq, Repr

def Leaf.isAvailable (l : Leaf) (v : Version) : Bool := v.allows l.gate

inductive Particle where
  | leaf (l : Leaf)
  | group (compositor : Compositor) (occurs : Occurs) (members : List Particle)
  deriving Repr

namespace Particle

def occurs : Particle → Occurs
  | .leaf l => l.occurs
  | .group _ o _ => o

mutual

def leaves : Particle → List Leaf
  | .leaf l => [l]
  | .group _ _ members => leavesOf members

def leavesOf : List Particle → List Leaf
  | [] => []
  | p :: ps => leaves p ++ leavesOf ps

end

mutual

/-- The content model without the leaves that a version does not have. Groups stay, even empty. -/
def restrict (v : Version) : Particle → List Particle
  | .leaf l => if l.isAvailable v then [.leaf l] else []
  | .group c o members => [.group c o (restrictAll v members)]

def restrictAll (v : Version) : List Particle → List Particle
  | [] => []
  | p :: ps => restrict v p ++ restrictAll v ps

end

def isOffered (v : Version) : Particle → Bool
  | .leaf l => l.isAvailable v
  | .group _ _ _ => true

mutual

def text : Particle → String
  | .leaf l =>
      l.kind.name ++ l.occurs.text ++ ((l.gate.map (fun v => "@" ++ v.name)).getD "")
  | .group c o members => c.name ++ o.text ++ "(" ++ Text.sepBy "," (texts members) ++ ")"

def texts : List Particle → List String
  | [] => []
  | p :: ps => text p :: texts ps

end

def nothing : Particle := .group .sequence .once []

end Particle

end OfficeSchema
