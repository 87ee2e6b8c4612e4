import OfficeSchema.Listing.OfJson
import OfficeSchema.Registry

namespace OfficeSchema

structure Catalog where
  namespaces : Namespace.Table
  types : List (String × SimpleType)
  declarations : List Declaration

namespace Catalog

def empty : Catalog := ⟨.standard, [], []⟩

def size (c : Catalog) : Nat := c.declarations.length

def addNamespace (c : Catalog) (e : Namespace.Entry) : Except Error Catalog :=
  (Namespace.named (c.namespaces.insert e)).map (fun t => { c with namespaces := t })

def addType (c : Catalog) (name : String) (t : SimpleType) : Catalog :=
  { c with types := Listing.place name (t.named name) c.types }

def type? (c : Catalog) (name : String) : Option SimpleType :=
  (c.types.lookup name).or ((Primitive.ofName? name).map SimpleType.ofPrimitive)

def add (c : Catalog) (d : Declaration) : Catalog :=
  { c with declarations := c.declarations ++ [d] }

def declaration (c : Catalog) (name : String) (capability : Capability) :
    Except Error Declaration :=
  (Namespace.named (c.namespaces.identity name)).map (fun i => .bare ⟨name⟩ i capability)

def attributeRef (c : Catalog) (name : String) : Except Error AttributeRef :=
  Namespace.named (AttributeRef.ofName c.namespaces name)

def attributeDecl (c : Catalog) (name : String) (t : SimpleType) : Except Error AttributeDecl :=
  (c.attributeRef name).map (fun r => .ofRef r t)

def registry (c : Catalog) (v : Version) : Except Error Registry :=
  Registry.build v c.namespaces c.declarations

def shelf (c : Catalog) : RegistryShelf := .ofDeclarations c.namespaces c.declarations

def boundOf (owner text : String) : Except Error Decimal :=
  match Decimal.ofScientific? text.toList with
  | some d => .ok d
  | none => .error (.schema ((ParseError.ofFault (.invalidBound text)).locate owner))

def patternOf (source : String) : Except Error Pattern :=
  match Pattern.ofSource? source with
  | some p => .ok p
  | none => .error (.schema (.ofFault (.invalidPattern source)))

def given {α β : Type} (read : α → Except Error β) : Option α → Except Error (Option β)
  | none => .ok none
  | some a => (read a).map some

/-- The type of an entry: lengths come first among its facets, then its pattern, its bounds and its
enumeration. -/
def typeOfEntry (name : String) (e : Listing.TypeEntry) : Except Error SimpleType := do
  match Primitive.ofName? e.base with
  | none => .error (.catalog (.unknownBase name e.base))
  | some p =>
      let pattern ← given patternOf e.pattern
      let min ← given (boundOf name) e.minInclusive
      let max ← given (boundOf name) e.maxInclusive
      let base := if e.isList then SimpleType.listOf p else .ofPrimitive p
      let facets :=
        (e.length.map Facet.length).toList ++ (e.minLength.map Facet.minLength).toList ++
        (e.maxLength.map Facet.maxLength).toList ++ (pattern.map Facet.pattern).toList ++
        (min.map Facet.minInclusive).toList ++ (max.map Facet.maxInclusive).toList ++
        (if e.enumeration.isEmpty then [] else [Facet.enumeration e.enumeration])
      .ok (facets.foldl SimpleType.withFacet base)

def addTypes : List (String × Listing.TypeEntry) → Catalog → Except Error Catalog
  | [], c => .ok c
  | (name, e) :: es, c =>
      match typeOfEntry name e with
      | .ok t => addTypes es (c.addType name t)
      | .error f => .error f

def typeFor (c : Catalog) (owner name : String) : Except Error SimpleType :=
  match c.type? name with
  | some t => .ok t
  | none => .error (.catalog (.unknownType owner name))

mutual

/-- The content model of an entry; of a group, the compositor is read first and the bounds last. -/
def particleOf : Listing.ContentEntry → Except SchemaFault Particle
  | .leaf kind min max since =>
      (Occurs.ofSchema min max).map (fun o => .leaf ⟨⟨kind⟩, o, since⟩)
  | .group compositor min max members =>
      match Compositor.ofName? compositor with
      | none => .error (.unknownCompositor compositor)
      | some c =>
          match particlesOf members with
          | .error f => .error f
          | .ok ps => (Occurs.ofSchema min max).map (fun o => .group c o ps)

def particlesOf : List Listing.ContentEntry → Except SchemaFault (List Particle)
  | [] => .ok []
  | e :: es =>
      match particleOf e with
      | .error f => .error f
      | .ok p => (particlesOf es).map (p :: ·)

end

def capabilityOf (e : Listing.ElementEntry) : Except Error Capability :=
  match e.capability with
  | none => .ok .composite
  | some name =>
      match Capability.ofName? name with
      | some k => .ok k
      | none => .error (.catalog (.unknownCapability e.name name))

def contentOf (e : Listing.ElementEntry) (k : Capability) : Except Error (Option Particle) :=
  match e.content with
  | none => .ok none
  | some content =>
      if k = .composite then
        match particleOf content with
        | .ok p => .ok (some p)
        | .error f => .error (.schema ((ParseError.ofFault f).locate e.name))
      else .error (.catalog (.contentOfLeaf e.name))

def textOf (c : Catalog) (e : Listing.ElementEntry) (k : Capability) :
    Except Error (Option SimpleType) :=
  match e.text with
  | none => .ok none
  | some name =>
      if k = .text then (c.typeFor e.name name).map some
      else .error (.catalog (.textOfOther e.name))

def attributeOf (c : Catalog) (e : Listing.AttributeEntry) : Except Error AttributeDecl := do
  let type ← c.typeFor e.name e.type
  let a ← c.attributeDecl e.name type
  .ok { a with required := e.required, since := e.since }

def ruleOf (c : Catalog) : Listing.RuleEntry → Except Error Rule
  | .unique attr caseSensitive => do
      let attr ← c.attributeRef attr
      .ok (.unique attr caseSensitive)
  | .reference attr targetKind targetAttribute => do
      let attr ← c.attributeRef attr
      let target ← c.attributeRef targetAttribute
      .ok (.reference attr ⟨targetKind⟩ target)
  | .relationship attr => do
      let attr ← c.attributeRef attr
      .ok (.relationship attr)
  | .exclusive attributes => do
      let attributes ← attributes.mapM c.attributeRef
      .ok (.exclusive attributes)
  | .conditional required condition values => do
      let required ← c.attributeRef required
      let condition ← c.attributeRef condition
      .ok (.conditional required condition values)

def constraintOf (c : Catalog) (e : Listing.ConstraintEntry) : Except Error Constraint :=
  (c.ruleOf e.rule).map (fun r => ⟨r, e.family⟩)

/-- The declaration of an entry. Its capability is read first, then its name, its content, its
text, its attributes and its rules. -/
def declarationOf (c : Catalog) (e : Listing.ElementEntry) : Except Error Declaration := do
  let capability ← capabilityOf e
  let bare ← c.declaration e.name capability
  let content ← contentOf e capability
  let text ← c.textOf e capability
  let attributes ← e.attributes.mapM c.attributeOf
  let constraints ← e.constraints.mapM c.constraintOf
  .ok { bare with
    since := e.since.getD .office2007
    content := content
    text := text
    attributes := attributes
    constraints := constraints }

def ofListing (l : Listing) : Except Error Catalog := do
  let namespaces ← Namespace.named (Namespace.Table.insertAll l.namespaces .standard)
  let c ← addTypes l.types { empty with namespaces := namespaces }
  let declarations ← l.elements.mapM c.declarationOf
  .ok { c with declarations := declarations }

def ofText (s : String) : Except Error Catalog := Listing.ofText s >>= ofListing

def ofFile (path text : String) : Except Error Catalog :=
  match ofText text with
  | .error (.schema e) => .error (.schema (e.locate path))
  | r => r

end Catalog

end OfficeSchema
