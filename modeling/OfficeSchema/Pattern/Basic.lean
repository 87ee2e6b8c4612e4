import OfficeSchema.Pattern.Reader

namespace OfficeSchema

structure Pattern where
  source : String
  regex : Pattern.Regex
  deriving Repr

namespace Pattern

def anchored (source : String) : List Char := "^(?:".toList ++ source.toList ++ ")$".toList

def ofSource? (source : String) : Option Pattern :=
  (Regex.ofText? (anchored source)).map (fun r => ⟨source, r⟩)

def matchesText (p : Pattern) (s : String) : Bool := p.regex.occursIn s.toList

end Pattern

end OfficeSchema
