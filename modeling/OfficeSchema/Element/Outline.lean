import OfficeSchema.Element
import OfficeSchema.Json.Basic

namespace OfficeSchema.Element

def ownParts (attributes : List Attribute) (text : Option String) : List String :=
  attributes.map (fun a => "@" ++ a.name ++ "=" ++ a.value) ++ (text.map Json.quoted).toList

mutual

def outline : Element → String
  | ⟨n, attributes, text, children⟩ =>
      let parts := ownParts attributes text ++ outlines children
      if parts.isEmpty then n.name else n.name ++ "(" ++ Text.sepBy "," parts ++ ")"

def outlines : List Element → List String
  | [] => []
  | e :: es => outline e :: outlines es

end

theorem outline_ofNode (n : Node) : outline (ofNode n) = n.name := by
  simp [ofNode, outline, outlines, ownParts]

end OfficeSchema.Element
