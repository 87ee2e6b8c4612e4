import OfficeSchema.Check.Finding
import OfficeSchema.Json.Basic
import OfficeSchema.Registry

namespace OfficeSchema

def Finding.json (f : Finding) : Json :=
  .ofFields
    ([("id", .string f.defect.rule),
      ("description", .string f.defect.description),
      ("error_type", .string f.defect.level.name),
      ("node", .ofFields
        ([("path", .string f.node.path), ("element", .string f.node.element)] ++
          (f.node.attr.map (fun a => ("attribute", .string a))).toList))] ++
      (f.part.map (fun p => ("part_uri", .string p))).toList)

namespace CommandLine

def libraryVersion : String := "0.1.0"

def lines (ls : List String) : String := String.join (ls.map (fun l => l ++ "\n"))

def findingsText (parts : Nat) (v : Version) (fs : List Finding) : String :=
  if fs.isEmpty then lines [s!"✓ {parts} part(s) valid for {v.name}"]
  else lines ([s!"✗ {fs.length} error(s) for {v.name}", ""] ++ fs.map (fun f => "  - " ++ f.text))

def findingsJson (fs : List Finding) : Json := .array (fs.map Finding.json)

def summaryHead (namespaces declarations : Nat) : List String :=
  [s!"ooxml-schema v{libraryVersion}", "", "Catalog:", s!"  Namespaces: {namespaces}",
    s!"  Descriptors: {declarations}", "", "Element kinds per version:"]

def sizeLine (v : Version) (n : Nat) : String := s!"  {v.name}: {n}"

def sizesJson (sizes : List (Version × Nat)) : Json :=
  .ofFields ((sizes.mergeSort (fun a b => decide (a.1.name ≤ b.1.name))).map
    (fun s => (s.1.name, .natural s.2)))

def summaryJson (namespaces declarations : Nat) (sizes : List (Version × Nat)) : Json :=
  .ofFields
    [("descriptors", .natural declarations), ("kinds", sizesJson sizes),
      ("library", .string libraryVersion), ("namespaces", .natural namespaces)]

def children (r : Registry) (k : Kind) : List (Kind × Path) :=
  match r.content? k with
  | some content => content.model.lookup
  | none => []

def attributeLine (a : AttributeDecl) : String :=
  s!"    {a.name} : {a.type.name}" ++ (if a.required then " (required)" else "")

def headed (head : String) (ls : List String) : List String := if ls.isEmpty then [] else head :: ls

def kindText (r : Registry) (d : Declaration) : String :=
  lines
    ([s!"Element: {d.kind.name}", s!"  Identity: {d.identity.text}",
      s!"  Capability: {d.capability.name}", s!"  Since: {d.since.name}"] ++
      headed "  Attributes:" (d.attributes.map attributeLine) ++
      headed "  Children:"
        ((children r d.kind).map (fun c => "    " ++ c.2.text ++ " " ++ c.1.name)))

def attributeJson (a : AttributeDecl) : Json :=
  .ofFields
    [("name", .string a.name), ("required", .truth a.required), ("type", .string a.type.name)]

def childJson (c : Kind × Path) : Json :=
  .ofFields [("kind", .string c.1.name), ("path", .string c.2.text)]

def kindJson (r : Registry) (d : Declaration) : Json :=
  .ofFields
    [("attributes", .array (d.attributes.map attributeJson)),
      ("capability", .string d.capability.name),
      ("children", .array ((children r d.kind).map childJson)),
      ("identity", .string d.identity.text),
      ("kind", .string d.kind.name),
      ("since", .string d.since.name)]

end CommandLine

end OfficeSchema
