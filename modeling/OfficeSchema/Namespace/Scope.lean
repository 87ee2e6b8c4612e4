import OfficeSchema.Namespace.Table

namespace OfficeSchema.Namespace

structure Scope where
  bindings : List (String × String)
  default : Option String
  deriving DecidableEq, Repr

namespace Scope

def empty : Scope := ⟨[], none⟩

def bind (s : Scope) (label address : String) : Scope :=
  { s with bindings := (label, address) :: s.bindings }

def setDefault (s : Scope) (address : String) : Scope := { s with default := some address }

def address? (s : Scope) (label : String) : Option String :=
  if label == "xml" then some xmlAddress
  else if label == "xmlns" then some xmlnsAddress
  else s.bindings.lookup label

def resolve (s : Scope) (name : String) : Except Problem QualifiedName :=
  match Text.splitColon name with
  | none => .ok ⟨s.default, name⟩
  | some (label, rest) =>
      match s.address? label with
      | none => .error (.unknownPrefix label)
      | some address => .ok ⟨some address, rest⟩

end Scope

end OfficeSchema.Namespace
