import OfficeSchema.Value.SimpleType
import OfficeSchema.Element

namespace OfficeSchema

deriving instance Hashable for AttributeRef

def AttributeRef.on (a : AttributeRef) (e : Element) : Option String :=
  e.value? a.namespaceId a.localName

inductive Rule where
  | unique (attr : AttributeRef) (caseSensitive : Bool)
  | reference (attr : AttributeRef) (targetKind : Kind) (targetAttribute : AttributeRef)
  | relationship (attr : AttributeRef)
  | exclusive (attributes : List AttributeRef)
  | conditional (required condition : AttributeRef) (values : List String)
  deriving DecidableEq, Repr

structure Constraint where
  rule : Rule
  family : Family
  deriving DecidableEq, Repr

structure AttributeDecl where
  name : String
  namespaceId : Option Nat
  localName : String
  type : SimpleType
  required : Bool
  since : Option Version
  deriving Repr

namespace AttributeDecl

def isAvailable (a : AttributeDecl) (v : Version) : Bool := v.allows a.since

def declares (a : AttributeDecl) (id : Option Nat) (name : String) : Bool :=
  a.namespaceId == id && a.localName == name

def ofRef (r : AttributeRef) (t : SimpleType) : AttributeDecl :=
  ⟨r.name, r.namespaceId, r.localName, t, false, none⟩

end AttributeDecl

structure Declaration where
  kind : Kind
  identity : Identity
  capability : Capability
  content : Option Particle
  text : Option SimpleType
  attributes : List AttributeDecl
  constraints : List Constraint
  since : Version
  deriving Repr

namespace Declaration

def bare (kind : Kind) (identity : Identity) (capability : Capability) : Declaration :=
  ⟨kind, identity, capability, none, none, [], [], .office2007⟩

def isAvailable (d : Declaration) (v : Version) : Bool := v.includes d.since

def attribute? (d : Declaration) (id : Option Nat) (name : String) : Option AttributeDecl :=
  d.attributes.find? (fun a => a.declares id name)

def attributeNamed? (d : Declaration) (name : String) : Option AttributeDecl :=
  d.attributes.find? (fun a => a.name == name)

def textType (d : Declaration) : SimpleType := d.text.getD .string

end Declaration

end OfficeSchema
