import OfficeSchema.Text.Blank

/-!
Known namespaces. Every namespace has a small number; an element kind is identified by the number
of its namespace and its local name. A table keeps numbers and addresses in one-to-one
correspondence, while several namespaces may share a conventional prefix: the first one keeps it.
-/

namespace OfficeSchema

structure Identity where
  namespaceId : Nat
  localName : String
  deriving DecidableEq, Repr, Inhabited, Hashable

def Identity.text (i : Identity) : String := s!"({i.namespaceId}, {i.localName})"

structure QualifiedName where
  address : Option String
  localName : String
  deriving DecidableEq, Repr

def QualifiedName.text : QualifiedName → String
  | ⟨some address, name⟩ => "\x7b" ++ address ++ "\x7d" ++ name
  | ⟨none, name⟩ => name

namespace Namespace

inductive Problem where
  | numberTaken (id : Nat) (address : String)
  | addressTaken (address : String) (id : Nat)
  | noPrefix (name : String)
  | unknownPrefix (label : String)
  | unknownAttributePrefix (name : String)
  | unregistered (kind : String) (id : Nat)
  deriving DecidableEq, Repr

def Problem.message : Problem → String
  | .numberTaken id address => s!"namespace id {id} is already bound to '{address}'"
  | .addressTaken address id => s!"namespace '{address}' is already registered with id {id}"
  | .noPrefix name => s!"'{name}' has no namespace prefix"
  | .unknownPrefix label => s!"Unknown prefix: {label}"
  | .unknownAttributePrefix name => s!"Unknown prefix in attribute '{name}'"
  | .unregistered kind id => s!"element '{kind}' uses unregistered namespace id {id}"

def xmlnsAddress : String := "http://www.w3.org/2000/xmlns/"

def xmlAddress : String := "http://www.w3.org/XML/1998/namespace"

def compatibilityAddress : String :=
  "http://schemas.openxmlformats.org/markup-compatibility/2006"

def compatibilityId : Nat := 5

structure Entry where
  id : Nat
  label : String
  address : String
  deriving DecidableEq, Repr

structure Table where
  entries : List Entry
  deriving DecidableEq, Repr

namespace Table

def empty : Table := ⟨[]⟩

def size (t : Table) : Nat := t.entries.length

def get? (t : Table) (id : Nat) : Option Entry := t.entries.find? (fun e => e.id == id)

def address? (t : Table) (id : Nat) : Option String := (t.get? id).map Entry.address

def idOf? (t : Table) (address : String) : Option Nat :=
  (t.entries.find? (fun e => e.address == address)).map Entry.id

def idOfPrefix? (t : Table) (label : String) : Option Nat :=
  (t.entries.find? (fun e => e.label == label)).map Entry.id

/-- Registers a namespace. A repeated registration changes nothing; a number or an address that
stands for something else is refused. -/
def insert (t : Table) (e : Entry) : Except Problem Table :=
  match t.get? e.id with
  | some old =>
      if old.address == e.address then .ok t else .error (.numberTaken e.id old.address)
  | none =>
      match t.idOf? e.address with
      | some id => .error (.addressTaken e.address id)
      | none => .ok ⟨t.entries ++ [e]⟩

def insertAll : List Entry → Table → Except Problem Table
  | [], t => .ok t
  | e :: es, t =>
      match t.insert e with
      | .ok u => insertAll es u
      | .error p => .error p

def identity (t : Table) (name : String) : Except Problem Identity :=
  match Text.splitColon name with
  | none => .error (.noPrefix name)
  | some (label, rest) =>
      match t.idOfPrefix? label with
      | none => .error (.unknownPrefix label)
      | some id => .ok ⟨id, rest⟩

def standard : Table :=
  ⟨[⟨1, "xmlns", xmlnsAddress⟩,
    ⟨2, "xml", xmlAddress⟩,
    ⟨compatibilityId, "mc", compatibilityAddress⟩,
    ⟨10, "a", "http://schemas.openxmlformats.org/drawingml/2006/main"⟩,
    ⟨15, "lc", "http://schemas.openxmlformats.org/drawingml/2006/lockedCanvas"⟩,
    ⟨19, "r", "http://schemas.openxmlformats.org/officeDocument/2006/relationships"⟩,
    ⟨22, "x", "http://schemas.openxmlformats.org/spreadsheetml/2006/main"⟩,
    ⟨23, "w", "http://schemas.openxmlformats.org/wordprocessingml/2006/main"⟩,
    ⟨24, "p", "http://schemas.openxmlformats.org/presentationml/2006/main"⟩,
    ⟨52, "w14", "http://schemas.microsoft.com/office/word/2010/wordml"⟩,
    ⟨69, "w15", "http://schemas.microsoft.com/office/word/2012/wordml"⟩]⟩

end Table

end Namespace

structure AttributeRef where
  name : String
  namespaceId : Option Nat
  localName : String
  deriving DecidableEq, Repr

def AttributeRef.ofName (t : Namespace.Table) (name : String) :
    Except Namespace.Problem AttributeRef :=
  match Text.splitColon name with
  | none => .ok ⟨name, none, name⟩
  | some (label, rest) =>
      match t.idOfPrefix? label with
      | none => .error (.unknownAttributePrefix name)
      | some id => .ok ⟨name, some id, rest⟩

end OfficeSchema
