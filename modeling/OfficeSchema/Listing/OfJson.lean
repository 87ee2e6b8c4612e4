import OfficeSchema.Json.Reader
import OfficeSchema.Json.Record
import OfficeSchema.Listing.Basic

/-!
Listings in JSON. Numbers have to fit the words that hold them. Content models and rules are
collected before it is known which of their forms is meant, so all of what they hold has to be
plain, while the unknown fields of other records may hold anything.
-/

namespace OfficeSchema.Listing

open Json (Field Record)

def byteBound : Nat := 255

def wordBound : Nat := 18446744073709551615

def depthBound : Nat := 127

def versionOf? (j : Json) : Option Version := j.string?.bind Version.ofText?

def count? (j : Json) : Option Nat := j.natural? countCap

def length? (j : Json) : Option Nat := j.natural? wordBound

def strings? (j : Json) : Option (List String) := j.all? Json.string?

def familyOf? : Json → Option Family
  | .text s => s.bind Family.ofName?
  | .object [(some name, .null)] => Family.ofName? name
  | _ => none

def namespaceOf? (j : Json) : Option Namespace.Entry := do
  let r ← j.record? [⟨"id", false⟩, ⟨"prefix", false⟩, ⟨"uri", false⟩]
  let id ← r.needed "id" (Json.natural? byteBound)
  let label ← r.needed "prefix" Json.string?
  let address ← r.needed "uri" Json.string?
  some ⟨id, label, address⟩

def typeFields : List Field :=
  [⟨"base", false⟩, ⟨"list", true⟩, ⟨"length", false⟩, ⟨"minLength", false⟩, ⟨"maxLength", false⟩,
    ⟨"pattern", false⟩, ⟨"minInclusive", false⟩, ⟨"maxInclusive", false⟩, ⟨"enumeration", true⟩]

def typeOf? (j : Json) : Option TypeEntry := do
  let r ← j.record? typeFields
  let base ← r.needed "base" Json.string?
  let isList ← r.defaulted "list" false Json.truth?
  let length ← r.optional "length" length?
  let minLength ← r.optional "minLength" length?
  let maxLength ← r.optional "maxLength" length?
  let pattern ← r.optional "pattern" Json.string?
  let minInclusive ← r.optional "minInclusive" Json.string?
  let maxInclusive ← r.optional "maxInclusive" Json.string?
  let enumeration ← r.defaulted "enumeration" [] strings?
  some ⟨base, isList, length, minLength, maxLength, pattern, minInclusive, maxInclusive,
    enumeration⟩

def typesOf? : Json → Option (List (String × TypeEntry))
  | .object members => do
      let named ← Json.named? members
      let entries ← named.mapM (fun m => (typeOf? m.2).map (fun t => (m.1, t)))
      some (merged entries)
  | _ => none

def attributeOf? (j : Json) : Option AttributeEntry := do
  let r ← j.record? [⟨"name", false⟩, ⟨"type", true⟩, ⟨"required", true⟩, ⟨"since", false⟩]
  let name ← r.needed "name" Json.string?
  let type ← r.defaulted "type" "string" Json.string?
  let required ← r.defaulted "required" false Json.truth?
  let since ← r.optional "since" versionOf?
  some ⟨name, type, required, since⟩

def leafOf? (j : Json) : Option ContentEntry := do
  let r ← j.object? [⟨"element", false⟩, ⟨"min", true⟩, ⟨"max", true⟩, ⟨"since", false⟩]
  let kind ← r.needed "element" Json.string?
  let min ← r.defaulted "min" 1 count?
  let max ← r.defaulted "max" 1 count?
  let since ← r.optional "since" versionOf?
  some (.leaf kind min max since)

def groupOf? (member : Json → Option ContentEntry) (j : Json) : Option ContentEntry := do
  let r ← j.object? [⟨"type", false⟩, ⟨"min", true⟩, ⟨"max", true⟩, ⟨"children", false⟩]
  let compositor ← r.needed "type" Json.string?
  let min ← r.defaulted "min" 1 count?
  let max ← r.defaulted "max" 1 count?
  let members ← r.needed "children" (Json.all? member)
  some (.group compositor min max members)

/-- A leaf, or else a group, no more than `depth` levels of groups deep. -/
def particleOf? : Nat → Json → Option ContentEntry
  | 0, j => leafOf? j
  | depth + 1, j => (leafOf? j).or (groupOf? (particleOf? depth) j)

def contentOf? (j : Json) : Option ContentEntry :=
  if j.isPlain (depthBound - 3) then particleOf? depthBound j else none

def ruleNames : List String :=
  ["uniqueAttributeValue", "referenceExist", "relationshipExist", "attributeMutualExclusive",
    "attributeRequiredConditionToValue"]

/-- The name of a rule, which may stand for itself or be given by its index. -/
def ruleNameOf? : Json → Option String
  | .text s => s
  | j => (j.natural? wordBound).bind (fun i => ruleNames[i]?)

def fieldsOf? (r : Record) : String → Option RuleEntry
  | "uniqueAttributeValue" => do
      let r ← Json.known? [⟨"attribute", false⟩, ⟨"caseSensitive", true⟩] r
      let attr ← r.needed "attribute" Json.string?
      let caseSensitive ← r.defaulted "caseSensitive" true Json.truth?
      some (.unique attr caseSensitive)
  | "referenceExist" => do
      let r ← Json.known?
        [⟨"attribute", false⟩, ⟨"targetKind", false⟩, ⟨"targetAttribute", false⟩] r
      let attr ← r.needed "attribute" Json.string?
      let targetKind ← r.needed "targetKind" Json.string?
      let targetAttribute ← r.needed "targetAttribute" Json.string?
      some (.reference attr targetKind targetAttribute)
  | "relationshipExist" => do
      let r ← Json.known? [⟨"attribute", false⟩] r
      let attr ← r.needed "attribute" Json.string?
      some (.relationship attr)
  | "attributeMutualExclusive" => do
      let r ← Json.known? [⟨"attributes", false⟩] r
      let attributes ← r.needed "attributes" strings?
      some (.exclusive attributes)
  | "attributeRequiredConditionToValue" => do
      let r ← Json.known? [⟨"required", false⟩, ⟨"condition", false⟩, ⟨"values", false⟩] r
      let required ← r.needed "required" Json.string?
      let condition ← r.needed "condition" Json.string?
      let values ← r.needed "values" strings?
      some (.conditional required condition values)
  | _ => none

def ruleOf? (r : Record) : Option RuleEntry := do
  let head ← Json.known? [⟨"rule", false⟩] r
  let name ← head.needed "rule" ruleNameOf?
  fieldsOf? r name

/-- A rule with its fields beside its name and its family. It is always an object, which stands
inside four arrays and objects. -/
def constraintOf? : Json → Option ConstraintEntry
  | .object members => do
      let r ← Json.named? members
      let head ← Json.known? [⟨"application", true⟩] r
      let family ← head.defaulted "application" .all familyOf?
      let others := r.filter (fun m => m.1 != "application")
      if others.all (fun m => m.2.isPlain (depthBound - 5)) then
        (ruleOf? others).map (fun rule => ⟨rule, family⟩)
      else none
  | _ => none

def elementFields : List Field :=
  [⟨"name", false⟩, ⟨"kind", false⟩, ⟨"since", false⟩, ⟨"content", false⟩, ⟨"text", false⟩,
    ⟨"attributes", true⟩, ⟨"constraints", true⟩]

def elementOf? (j : Json) : Option ElementEntry := do
  let r ← j.record? elementFields
  let name ← r.needed "name" Json.string?
  let capability ← r.optional "kind" Json.string?
  let since ← r.optional "since" versionOf?
  let content ← r.optional "content" contentOf?
  let text ← r.optional "text" Json.string?
  let attributes ← r.defaulted "attributes" [] (Json.all? attributeOf?)
  let constraints ← r.defaulted "constraints" [] (Json.all? constraintOf?)
  some ⟨name, capability, since, content, text, attributes, constraints⟩

def ofJson? (j : Json) : Option Listing := do
  let r ← j.record? [⟨"namespaces", true⟩, ⟨"simpleTypes", true⟩, ⟨"elements", true⟩]
  let namespaces ← r.defaulted "namespaces" [] (Json.all? namespaceOf?)
  let types ← r.defaulted "simpleTypes" [] typesOf?
  let elements ← r.defaulted "elements" [] (Json.all? elementOf?)
  some ⟨namespaces, types, elements⟩

def ofText (s : String) : Except Error Listing :=
  match (Json.ofText? s).bind ofJson? with
  | some l => .ok l
  | none => .error .malformedJson

end OfficeSchema.Listing
