import OfficeSchema.Element

namespace OfficeSchema

structure PathStep where
  name : String
  index : Nat
  deriving DecidableEq, Repr

def PathStep.text (s : PathStep) : String := s!"/{s.name}[{s.index}]"

structure NodeRef where
  above : List PathStep
  step : PathStep
  attr : Option String
  deriving DecidableEq, Repr

namespace NodeRef

def element (r : NodeRef) : String := r.step.name

def steps (r : NodeRef) : List PathStep := r.above ++ [r.step]

def path (r : NodeRef) : String := String.join (r.steps.map PathStep.text)

def root (e : Element) : NodeRef := ⟨[], ⟨e.name, 1⟩, none⟩

/-- Reference to a child; `before` are the names of the siblings that came before. -/
def child (r : NodeRef) (before : List String) (name : String) : NodeRef :=
  ⟨r.steps, ⟨name, before.count name + 1⟩, none⟩

def childrenFrom (r : NodeRef) (before : List String) : List Element → List NodeRef
  | [] => []
  | c :: cs => r.child before c.name :: childrenFrom r (c.name :: before) cs

def children (r : NodeRef) (cs : List Element) : List NodeRef := childrenFrom r [] cs

theorem length_childrenFrom (r : NodeRef) (before : List String) (cs : List Element) :
    (childrenFrom r before cs).length = cs.length := by
  induction cs generalizing before with
  | nil => rfl
  | cons c cs ih => simpa [childrenFrom] using ih _

theorem length_children (r : NodeRef) (cs : List Element) : (r.children cs).length = cs.length :=
  length_childrenFrom r [] cs

theorem map_fst_zip_children (r : NodeRef) (cs : List Element) :
    (cs.zip (r.children cs)).map Prod.fst = cs :=
  List.map_fst_zip (Nat.le_of_eq (length_children r cs).symm)

theorem map_snd_zip_children (r : NodeRef) (cs : List Element) :
    (cs.zip (r.children cs)).map Prod.snd = r.children cs :=
  List.map_snd_zip (Nat.le_of_eq (length_children r cs))

def withAttribute (r : NodeRef) (name : String) : NodeRef := { r with attr := some name }

def text (r : NodeRef) : String :=
  match r.attr with
  | some a => r.path ++ "/@" ++ a
  | none => r.path

end NodeRef

end OfficeSchema
