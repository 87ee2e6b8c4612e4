import OfficeSchema.Element

namespace OfficeSchema

inductive Processing where
  | untouched
  | loadedParts
  | allParts
  deriving DecidableEq, Repr

structure Relationship where
  id : String
  target : String
  deriving DecidableEq, Repr

/-- A part; one without a root element is binary. -/
structure Part where
  uri : String
  root : Option Element
  relationships : List Relationship

structure Package where
  family : Family
  processing : Processing
  target : Version
  parts : List Part

namespace Package

def empty (f : Family) : Package := ⟨f, .untouched, .office2007, []⟩

def place (p : Part) : List Part → List Part
  | [] => [p]
  | q :: qs => if q.uri == p.uri then p :: qs else q :: place p qs

def addPart (k : Package) (p : Part) : Package := { k with parts := place p k.parts }

def part? (k : Package) (uri : String) : Option Part := k.parts.find? (fun p => p.uri == uri)

def uris (k : Package) : List String := k.parts.map Part.uri

def resolve? (k : Package) (uri id : String) : Option Relationship :=
  (k.part? uri).bind (fun p => p.relationships.find? (fun r => r.id == id))

end Package

end OfficeSchema
