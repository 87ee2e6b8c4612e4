import OfficeSchema.Check.Reference
import OfficeSchema.Value.SimpleType

namespace OfficeSchema

inductive Level where
  | schema
  | semantic
  deriving DecidableEq, Repr

def Level.name : Level → String
  | .schema => "schema"
  | .semantic => "semantic"

structure Holder where
  isAttribute : Bool
  name : String
  deriving DecidableEq, Repr

def Holder.text (h : Holder) : String :=
  (if h.isAttribute then "attribute '" else "element '") ++ h.name ++ "'"

inductive Defect where
  | missingAttribute (name : String)
  | undeclaredAttribute (name : String)
  | invalidValue (holder : Holder) (raw : String)
  | facetViolated (holder : Holder) (raw : String) (facet : Facet) (length : Nat)
  | textInComposite (element : String)
  | textInEmpty (element : String)
  | childInLeaf (element : String)
  | invalidChild (element child : String) (expected : List Kind)
  | unexpectedChild (element : String) (child : Kind)
  | tooMany (element : String) (child : Kind)
  | tooManyAlternatives (element : String) (child : Kind) (rivals : List Kind)
  | incomplete (element : String) (expected : List Kind)
  | duplicateValue (attr value : String)
  | missingTarget (attr value : String) (kind : Kind) (target : String)
  | missingRelationship (attr value : String)
  | exclusiveTogether (present all : List String)
  | missingCompanion (required condition value : String)
  | other (level : Level) (rule description : String)

namespace Defect

def quoted (names : List String) : List String := names.map (fun n => "'" ++ n ++ "'")

def level : Defect → Level
  | .duplicateValue _ _ | .missingTarget _ _ _ _ | .missingRelationship _ _
  | .exclusiveTogether _ _ | .missingCompanion _ _ _ => .semantic
  | .other level _ _ => level
  | _ => .schema

def facetRule : Facet → String
  | .length _ | .minLength _ | .maxLength _ => "Sch_StringLengthConstraintFailed"
  | .pattern _ => "Sch_PatternConstraintFailed"
  | .minInclusive _ => "Sch_MinInclusiveConstraintFailed"
  | .maxInclusive _ => "Sch_MaxInclusiveConstraintFailed"
  | .enumeration _ => "Sch_EnumerationConstraintFailed"

def rule : Defect → String
  | .missingAttribute _ => "Sch_MissRequiredAttribute"
  | .undeclaredAttribute _ => "Sch_UndeclaredAttribute"
  | .invalidValue holder _ =>
      if holder.isAttribute then "Sch_AttributeValueDataTypeDetailed"
      else "Sch_ElementValueDataTypeDetailed"
  | .facetViolated _ _ facet _ => facetRule facet
  | .textInComposite _ | .textInEmpty _ => "Sch_TextNotAllowed"
  | .childInLeaf _ => "Sch_InvalidChildinLeafElement"
  | .invalidChild _ _ _ => "Sch_InvalidElementContent"
  | .unexpectedChild _ _ => "Sch_UnexpectedElementContent"
  | .tooMany _ _ | .tooManyAlternatives _ _ _ => "Sch_TooManyElements"
  | .incomplete _ _ => "Sch_IncompleteContent"
  | .duplicateValue _ _ => "Sem_UniqueAttributeValue"
  | .missingTarget _ _ _ _ => "Sem_MissingReferenceElement"
  | .missingRelationship _ _ => "Sem_InvalidRelationshipId"
  | .exclusiveTogether _ _ => "Sem_AttributeMutualExclusive"
  | .missingCompanion _ _ _ => "Sem_AttributeRequiredConditionToValue"
  | .other _ rule _ => rule

def emptyNote (holder : Holder) (raw : String) : String :=
  if raw != "" then ""
  else if holder.isAttribute then " The attribute value cannot be empty."
  else " The text value cannot be empty."

def facetNote (length : Nat) : Facet → String
  | .length n => s!"Its length must be exactly {n} ({length})."
  | .minLength n => s!"Its length must be at least {n} ({length})."
  | .maxLength n => s!"Its length must be at most {n} ({length})."
  | .pattern p => s!"The pattern constraint failed. The expected pattern is {p.source}."
  | .minInclusive d => s!"The value must be greater than or equal to {d.text}."
  | .maxInclusive d => s!"The value must be less than or equal to {d.text}."
  | .enumeration _ => "The Enumeration constraint failed."

def expectedNote (expected : List Kind) : String :=
  if expected.isEmpty then ""
  else " List of possible elements expected: <" ++
    Text.sepBy ", " (expected.map Kind.name) ++ ">."

def description : Defect → String
  | .missingAttribute name => s!"The required attribute '{name}' is missing."
  | .undeclaredAttribute name => s!"The '{name}' attribute is not declared."
  | .invalidValue holder raw =>
      s!"The {holder.text} has invalid value '{raw}'." ++ emptyNote holder raw
  | .facetViolated holder raw facet length =>
      s!"The {holder.text} has invalid value '{raw}'. " ++ facetNote length facet
  | .textInComposite element =>
      s!"The element '{element}' cannot contain text. Content model is element-only."
  | .textInEmpty element =>
      s!"The element '{element}' cannot contain text. Content model is empty."
  | .childInLeaf element =>
      s!"The element '{element}' is a leaf element and cannot contain children."
  | .invalidChild element child expected =>
      s!"The element '{element}' has invalid child element '{child}'." ++ expectedNote expected
  | .unexpectedChild element child =>
      s!"The element '{element}' has unexpected child element '{child.name}'."
  | .tooMany element child =>
      s!"The element '{element}' has too many '{child.name}' child elements."
  | .tooManyAlternatives element child rivals =>
      s!"The element '{element}' has too many alternatives: '{child.name}' " ++
        "cannot be combined with " ++
        Text.sepBy ", " (quoted (rivals.map Kind.name)) ++ "."
  | .incomplete element expected =>
      s!"The element '{element}' has incomplete content. List of possible elements expected: " ++
        Text.sepBy ", " (quoted (expected.map Kind.name)) ++ "."
  | .duplicateValue attr value =>
      s!"The attribute '{attr}' should have unique value. Its current value '{value}' " ++
        "duplicates with others."
  | .missingTarget attr value kind target =>
      s!"The attribute '{attr}' has invalid value '{value}'. No '{kind.name}' element with " ++
        s!"'{target}' equal to it exists."
  | .missingRelationship attr value =>
      s!"The relationship '{value}' referenced by attribute '{attr}' does not exist."
  | .exclusiveTogether present all =>
      "Attribute " ++ Text.sepBy " and " (quoted present) ++
        " cannot be present at the same time. Only one of these attributes can be specified: " ++
        Text.sepBy ", " all ++ "."
  | .missingCompanion required condition value =>
      s!"The attribute '{required}' is required when attribute '{condition}' has value '{value}'."
  | .other _ _ description => description

end Defect

structure Finding where
  defect : Defect
  node : NodeRef
  part : Option String

namespace Finding

def ofDefect (node : NodeRef) (defect : Defect) : Finding := ⟨defect, node, none⟩

def inPart (f : Finding) (part : Option String) : Finding := { f with part := part }

def text (f : Finding) : String :=
  (f.part.map (fun p => p ++ ":")).getD "" ++ f.node.text ++ " [" ++ f.defect.rule ++ "] " ++
    f.defect.description

end Finding

/-- Kept findings. No more than `bound` are kept, unless that is zero; the others are counted. -/
structure Ledger where
  bound : Nat
  part : Option String
  findings : List Finding
  dropped : Nat

namespace Ledger

def empty (bound : Nat) : Ledger := ⟨bound, none, [], 0⟩

def forPart (l : Ledger) (part : String) : Ledger := { l with part := some part }

def size (l : Ledger) : Nat := l.findings.length

def isFull (l : Ledger) : Bool := 0 < l.bound && l.bound ≤ l.size

def add (l : Ledger) (f : Finding) : Ledger :=
  if l.isFull then { l with dropped := l.dropped + 1 }
  else { l with findings := l.findings ++ [f.inPart l.part] }

def addAll (l : Ledger) (fs : List Finding) : Ledger := fs.foldl add l

theorem addAll_append (l : Ledger) (fs gs : List Finding) :
    l.addAll (fs ++ gs) = (l.addAll fs).addAll gs := by
  simp [addAll, List.foldl_append]

end Ledger

end OfficeSchema
