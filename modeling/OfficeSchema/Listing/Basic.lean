import OfficeSchema.Declaration

namespace OfficeSchema

namespace Listing

structure TypeEntry where
  base : String
  isList : Bool
  length : Option Nat
  minLength : Option Nat
  maxLength : Option Nat
  pattern : Option String
  minInclusive : Option String
  maxInclusive : Option String
  enumeration : List String
  deriving DecidableEq, Repr

def TypeEntry.of (base : String) : TypeEntry :=
  ⟨base, false, none, none, none, none, none, none, []⟩

structure AttributeEntry where
  name : String
  type : String
  required : Bool
  since : Option Version
  deriving DecidableEq, Repr

inductive ContentEntry where
  | leaf (kind : String) (min max : Nat) (since : Option Version)
  | group (compositor : String) (min max : Nat) (members : List ContentEntry)

inductive RuleEntry where
  | unique (attr : String) (caseSensitive : Bool)
  | reference (attr targetKind targetAttribute : String)
  | relationship (attr : String)
  | exclusive (attributes : List String)
  | conditional (required condition : String) (values : List String)
  deriving DecidableEq, Repr

structure ConstraintEntry where
  rule : RuleEntry
  family : Family
  deriving DecidableEq, Repr

structure ElementEntry where
  name : String
  capability : Option String
  since : Option Version
  content : Option ContentEntry
  text : Option String
  attributes : List AttributeEntry
  constraints : List ConstraintEntry

end Listing

structure Listing where
  namespaces : List Namespace.Entry
  types : List (String × Listing.TypeEntry)
  elements : List Listing.ElementEntry

namespace Listing

def place {α : Type} (name : String) (a : α) : List (String × α) → List (String × α)
  | [] => [(name, a)]
  | e :: es => if e.1 == name then (name, a) :: es else e :: place name a es

/-- Entries by name, where the last of a name counts and stands where the first one stood. -/
def merged {α : Type} (es : List (String × α)) : List (String × α) :=
  es.foldl (fun acc e => place e.1 e.2 acc) []

end Listing

end OfficeSchema
