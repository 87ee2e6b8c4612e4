import OfficeSchema.Check.Finding
import OfficeSchema.Package
import OfficeSchema.Registry

/-!
Checks of single values, and the state of a check. A text that is no value of its type gives one
finding; a value gives one for each facet that it violates, length facets first, then patterns, then
bounds, then enumerations.
-/

namespace OfficeSchema

structure ValueFrame where
  name : String
  type : SimpleType
  value : Parsed
  isAttribute : Bool
  node : NodeRef

namespace ValueFrame

def ofRaw (name : String) (type : SimpleType) (raw : String) (isAttribute : Bool)
    (node : NodeRef) : ValueFrame :=
  ⟨name, type, type.parse raw, isAttribute, node⟩

def holder (f : ValueFrame) : Holder := ⟨f.isAttribute, f.name⟩

end ValueFrame

inductive FacetClass where
  | length
  | pattern
  | bound
  | enumeration
  deriving DecidableEq, Repr

namespace FacetClass

def all : List FacetClass := [.length, .pattern, .bound, .enumeration]

theorem mem_all (c : FacetClass) : c ∈ all := by
  cases c <;> simp [all]

end FacetClass

namespace Facet

def facetClass : Facet → FacetClass
  | .length _ | .minLength _ | .maxLength _ => .length
  | .pattern _ => .pattern
  | .minInclusive _ | .maxInclusive _ => .bound
  | .enumeration _ => .enumeration

def isViolated (variety : Variety) (value : Parsed) : Facet → Bool
  | .length n => value.length variety != n
  | .minLength n => value.length variety < n
  | .maxLength n => n < value.length variety
  | .pattern p => !p.matchesText value.lexical
  | .minInclusive d => value.numbers.any (fun n => n.isBelow d)
  | .maxInclusive d => value.numbers.any (fun n => d.isBelow n)
  | .enumeration allowed =>
      match variety with
      | .atomic => !allowed.contains value.lexical
      | .list =>
          (Text.spaced value.lexical.toList).any (fun w => !allowed.contains (String.ofList w))

end Facet

namespace ValueFrame

def violations (f : ValueFrame) : List Facet :=
  FacetClass.all.flatMap (fun c =>
    f.type.facets.filter (fun facet =>
      facet.facetClass == c && facet.isViolated f.type.variety f.value))

def defects (f : ValueFrame) : List Defect :=
  if f.value.isValid then
    f.violations.map (fun facet =>
      .facetViolated f.holder f.value.raw facet (f.value.length f.type.variety))
  else [.invalidValue f.holder f.value.raw]

def findings (f : ValueFrame) : List Finding := f.defects.map (Finding.ofDefect f.node)

end ValueFrame

inductive ValueCheck where
  | single
  | list
  | facets (c : FacetClass)
  deriving DecidableEq, Repr

namespace ValueCheck

def all : List ValueCheck := [.single, .list] ++ FacetClass.all.map .facets

def invalid (f : ValueFrame) (variety : Variety) : List Defect :=
  if f.type.variety = variety && !f.value.isValid then [.invalidValue f.holder f.value.raw] else []

def defects (f : ValueFrame) : ValueCheck → List Defect
  | .single => invalid f .atomic
  | .list => invalid f .list
  | .facets c =>
      if f.value.isValid then
        (f.type.facets.filter (fun facet =>
          facet.facetClass == c && facet.isViolated f.type.variety f.value)).map (fun facet =>
            .facetViolated f.holder f.value.raw facet (f.value.length f.type.variety))
      else []

end ValueCheck

/-- State of a check: what it checks against, where it stands, what it found, and the values that
are under check, the innermost first. -/
structure Context where
  registry : Registry
  family : Family
  place : Option (Package × String)
  ledger : Ledger
  frames : List ValueFrame

namespace Context

def start (r : Registry) (bound : Nat) : Context := ⟨r, .all, none, .empty bound, []⟩

def inPart (c : Context) (k : Package) (uri : String) : Context :=
  { c with family := k.family, place := some (k, uri), ledger := c.ledger.forPart uri }

def forFamily (c : Context) (f : Family) : Context := { c with family := f }

def report (c : Context) (f : Finding) : Context := { c with ledger := c.ledger.add f }

def reportAll (c : Context) (fs : List Finding) : Context := { c with ledger := c.ledger.addAll fs }

def push (c : Context) (f : ValueFrame) : Context := { c with frames := f :: c.frames }

def pop (c : Context) : Context := { c with frames := c.frames.tail }

def current? (c : Context) : Option ValueFrame := c.frames.head?

def makeCheck (c : Context) (k : ValueCheck) : Context :=
  match c.current? with
  | some f => c.reportAll ((k.defects f).map (.ofDefect f.node))
  | none => c

def checkValue (c : Context) : Context := ValueCheck.all.foldl makeCheck c

def checkFramed (c : Context) (f : ValueFrame) : Context := (c.push f).checkValue.pop

end Context

end OfficeSchema
