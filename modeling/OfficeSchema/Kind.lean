import OfficeSchema.Text.Blank

namespace OfficeSchema

structure Kind where
  name : String
  deriving DecidableEq, Repr, Inhabited, Hashable

def Kind.label? (k : Kind) : Option String := (Text.splitColon k.name).map Prod.fst

def Kind.localName (k : Kind) : String := ((Text.splitColon k.name).map Prod.snd).getD k.name

inductive Capability where
  | composite
  | text
  | empty
  deriving DecidableEq, Repr, Inhabited

namespace Capability

def name : Capability → String
  | .composite => "composite"
  | .text => "leafText"
  | .empty => "leafEmpty"

def ofName? : String → Option Capability
  | "composite" => some .composite
  | "leafText" => some .text
  | "text" => some .text
  | "leafEmpty" => some .empty
  | "empty" => some .empty
  | _ => none

theorem ofName?_name (c : Capability) : ofName? c.name = some c := by
  cases c <;> rfl

end Capability

end OfficeSchema
