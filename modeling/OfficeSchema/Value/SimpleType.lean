import OfficeSchema.Pattern.Basic
import OfficeSchema.Value.Decimal
import OfficeSchema.Value.Moment
import OfficeSchema.Value.Octets

/-!
Simple types. A type has a primitive, which reads one value, a variety, one value or a list of
them, and facets, which restrict its values. Reading a text never fails: what it gives says whether
the text is a value of the type.
-/

namespace OfficeSchema

inductive Primitive where
  | string
  | token
  | boolean
  | onOff
  | integer
  | unsignedInt
  | decimal
  | hexBinary
  | base64Binary
  | dateTime
  deriving DecidableEq, Repr

inductive Item where
  | text (s : String)
  | truth (b : Bool)
  | integer (i : Int)
  | decimal (d : Decimal)
  | bytes (b : List UInt8)
  | moment (t : Moment)
  deriving DecidableEq, Repr

namespace Item

def number? : Item → Option Decimal
  | .integer i => some (.ofInt i)
  | .decimal d => some d
  | _ => none

end Item

namespace Primitive

def name : Primitive → String
  | .string => "string"
  | .token => "token"
  | .boolean => "boolean"
  | .onOff => "onOff"
  | .integer => "integer"
  | .unsignedInt => "unsignedInt"
  | .decimal => "decimal"
  | .hexBinary => "hexBinary"
  | .base64Binary => "base64Binary"
  | .dateTime => "dateTime"

def ofName? : String → Option Primitive
  | "string" => some .string
  | "token" => some .token
  | "boolean" => some .boolean
  | "onOff" => some .onOff
  | "integer" => some .integer
  | "int" => some .integer
  | "long" => some .integer
  | "unsignedInt" => some .unsignedInt
  | "decimal" => some .decimal
  | "hexBinary" => some .hexBinary
  | "base64Binary" => some .base64Binary
  | "dateTime" => some .dateTime
  | _ => none

theorem ofName?_name (p : Primitive) : ofName? p.name = some p := by
  cases p <;> rfl

def collapses : Primitive → Bool
  | .string => false
  | _ => true

def truth? (yes no : String) (s : String) : Option Bool :=
  if s == "true" || s == "1" || s == yes then some true
  else if s == "false" || s == "0" || s == no then some false
  else none

def parse (p : Primitive) (s : String) : Option Item :=
  match p with
  | .string | .token => some (.text s)
  | .boolean => (truth? "true" "false" s).map .truth
  | .onOff => (truth? "on" "off" s).map .truth
  | .integer => (Numeral.int64? s.toList).map .integer
  | .unsignedInt => (Numeral.uint32? s.toList).map (fun n => .integer n)
  | .decimal =>
      if s.toList.any Decimal.isExponentMark then none
      else (Decimal.ofText? s.toList).map .decimal
  | .hexBinary => (Octets.ofHex? s.toList).map .bytes
  | .base64Binary => (Octets.ofBase64? s.toList).map .bytes
  | .dateTime => (Moment.ofText? s.toList).map .moment

end Primitive

inductive Variety where
  | atomic
  | list
  deriving DecidableEq, Repr

inductive Facet where
  | length (n : Nat)
  | minLength (n : Nat)
  | maxLength (n : Nat)
  | pattern (p : Pattern)
  | minInclusive (d : Decimal)
  | maxInclusive (d : Decimal)
  | enumeration (values : List String)
  deriving Repr

def Facet.same : Facet → Facet → Bool
  | .length m, .length n => m == n
  | .minLength m, .minLength n => m == n
  | .maxLength m, .maxLength n => m == n
  | .pattern p, .pattern q => p.source == q.source
  | .minInclusive c, .minInclusive d => c.sameValue d
  | .maxInclusive c, .maxInclusive d => c.sameValue d
  | .enumeration us, .enumeration vs => us == vs
  | _, _ => false

structure SimpleType where
  name : String
  primitive : Primitive
  variety : Variety
  facets : List Facet
  deriving Repr

structure Parsed where
  raw : String
  lexical : String
  items : List Item
  isValid : Bool
  deriving DecidableEq, Repr

namespace Parsed

def isEmpty (p : Parsed) : Bool := p.raw == ""

/-- Lists are measured by their items, bytes by their number, all else by characters. -/
def length (p : Parsed) : Variety → Nat
  | .list => p.items.length
  | .atomic =>
      match p.items with
      | .bytes b :: _ => b.length
      | _ => p.lexical.toList.length

def numbers (p : Parsed) : List Decimal := p.items.filterMap Item.number?

end Parsed

namespace SimpleType

def ofPrimitive (p : Primitive) : SimpleType := ⟨p.name, p, .atomic, []⟩

def listOf (p : Primitive) : SimpleType := ⟨"list of " ++ p.name, p, .list, []⟩

def string : SimpleType := ofPrimitive .string

def withFacet (t : SimpleType) (f : Facet) : SimpleType := { t with facets := t.facets ++ [f] }

def named (t : SimpleType) (name : String) : SimpleType := { t with name := name }

def sameFacets : List Facet → List Facet → Bool
  | [], [] => true
  | f :: fs, g :: gs => f.same g && sameFacets fs gs
  | _, _ => false

def same (t u : SimpleType) : Bool :=
  t.name == u.name && t.primitive == u.primitive && t.variety == u.variety &&
    sameFacets t.facets u.facets

def lexical (t : SimpleType) (raw : String) : String :=
  if t.primitive.collapses || t.variety == .list then
    String.ofList (Text.collapse raw.toList)
  else raw

def itemsOf (p : Primitive) : List (List Char) → Option (List Item)
  | [] => some []
  | w :: ws =>
      match p.parse (String.ofList w), itemsOf p ws with
      | some i, some is => some (i :: is)
      | _, _ => none

def parse (t : SimpleType) (raw : String) : Parsed :=
  let lex := t.lexical raw
  let items? := match t.variety with
    | .atomic => (t.primitive.parse lex).map (fun i => [i])
    | .list => itemsOf t.primitive (Text.spaced lex.toList)
  ⟨raw, lex, items?.getD [], items?.isSome⟩

end SimpleType

end OfficeSchema
