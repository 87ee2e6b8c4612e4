import OfficeSchema.Declaration
import OfficeSchema.Name

namespace OfficeSchema

structure Registration where
  declaration : Declaration
  content? : Option Content

structure Registry where
  version : Version
  namespaces : Namespace.Table
  entries : List Registration

namespace Registry

def declarations (r : Registry) : List Declaration := r.entries.map Registration.declaration

def size (r : Registry) : Nat := r.entries.length

def entry? (r : Registry) (k : Kind) : Option Registration :=
  r.entries.find? (fun e => e.declaration.kind == k)

def lookup? (r : Registry) (k : Kind) : Option Declaration :=
  (r.entry? k).map Registration.declaration

def contains (r : Registry) (k : Kind) : Bool := (r.entry? k).isSome

def content? (r : Registry) (k : Kind) : Option Content := (r.entry? k).bind Registration.content?

def kindOf? (r : Registry) (i : Identity) : Option Kind :=
  (r.entries.find? (fun e => e.declaration.identity == i)).map (fun e => e.declaration.kind)

def instantiate? (r : Registry) (k : Kind) : Option Element :=
  (r.lookup? k).map (fun d => .ofNode (.typed d.kind d.identity d.capability))

def create? (r : Registry) (i : Identity) : Option Element := (r.kindOf? i).bind r.instantiate?

def createIn? (r : Registry) (m : Model) (i : Identity) : Option Element :=
  (r.kindOf? i).bind (fun k => if m.contains k then r.instantiate? k else none)

def register (r : Registry) (d : Declaration) : Registry :=
  let content? := match d.capability with
    | .composite => some (Content.fresh (d.content.getD .nothing) r.version)
    | .text | .empty => none
  { r with entries := r.entries ++ [⟨d, content?⟩] }

/-- Admits a declaration if the version has it; its name, its namespace, its identity and its kind
are checked in this order. -/
def accept (r : Registry) (d : Declaration) : Except Error Registry :=
  if !d.isAvailable r.version then .ok r
  else if !Name.isValid d.identity.localName then
    .error (.invalidName d.identity.localName)
  else if (r.namespaces.get? d.identity.namespaceId).isNone then
    .error (.naming (.unregistered d.kind.name d.identity.namespaceId))
  else match r.kindOf? d.identity with
    | some first => .error (.duplicateIdentity d.identity first d.kind)
    | none =>
        if r.contains d.kind then .error (.catalog (.kindTwice d.kind))
        else .ok (r.register d)

def acceptAll : List Declaration → Registry → Except Error Registry
  | [], r => .ok r
  | d :: ds, r =>
      match r.accept d with
      | .ok s => acceptAll ds s
      | .error e => .error e

def build (v : Version) (t : Namespace.Table) (ds : List Declaration) : Except Error Registry :=
  acceptAll ds ⟨v, t, []⟩

end Registry

structure RegistryShelf where
  namespaces : Namespace.Table
  declarations : List Declaration
  built : List (Version × Registry)

namespace RegistryShelf

def ofDeclarations (t : Namespace.Table) (ds : List Declaration) : RegistryShelf := ⟨t, ds, []⟩

def isBuilt (s : RegistryShelf) (v : Version) : Bool := (s.built.lookup v).isSome

/-- The registry of a version, built when it is first asked for and kept from then on. A build that
fails leaves no trace. -/
def ask (s : RegistryShelf) (v : Version) : Except Error Registry × RegistryShelf :=
  match s.built.lookup v with
  | some r => (.ok r, s)
  | none =>
      match Registry.build v s.namespaces s.declarations with
      | .ok r => (.ok r, { s with built := (v, r) :: s.built })
      | .error e => (.error e, s)

def get (s : RegistryShelf) (v : Version) : Except Error Registry := (s.ask v).1

end RegistryShelf

end OfficeSchema
