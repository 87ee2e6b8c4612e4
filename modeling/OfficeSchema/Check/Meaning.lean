import OfficeSchema.Check.Structure
import OfficeSchema.Text.Casing
import Std.Data.HashMap

/-!
Rules across the nodes of a document. The values that rules compare are indexed in one walk through
the typed nodes; then every rule of every node is checked in document order.
-/

namespace OfficeSchema

/-- A typed node that is reached without passing through unknown content. -/
structure Visited where
  element : Element
  kind : Kind
  node : NodeRef

def Node.isWalked : Node → Bool
  | .typed _ _ _ => true
  | .wrapper _ => true
  | _ => false

mutual

def visited (node : NodeRef) : Element → List Visited
  | ⟨n, attributes, text, children⟩ =>
      (match n with
        | .typed k _ _ => [⟨⟨n, attributes, text, children⟩, k, node⟩]
        | _ => []) ++ visitedBelow node [] children

def visitedBelow (parent : NodeRef) (before : List String) : List Element → List Visited
  | [] => []
  | c :: cs =>
      (if c.node.isWalked then visited (parent.child before c.name) c else []) ++
        visitedBelow parent (c.name :: before) cs

end

structure Mark where
  kind : Kind
  attr : AttributeRef
  value : String
  deriving DecidableEq, Repr, Hashable

def normalise (caseSensitive : Bool) (value : String) : String :=
  if caseSensitive then value else String.ofList (Text.lower value.toList)

/-- How often each value was marked as one that has to be unique, and the values that references
may point to. -/
structure ValueIndex where
  counts : Std.HashMap Mark Nat
  targets : Std.HashMap Mark Unit

namespace ValueIndex

def markOf? (v : Visited) : Rule → Option Mark
  | .unique attr caseSensitive =>
      (attr.on v.element).map (fun s => ⟨v.kind, attr, normalise caseSensitive s⟩)
  | _ => none

def targetOf? : Rule → Option (Kind × AttributeRef)
  | .reference _ kind attr => some (kind, attr)
  | _ => none

def rulesOf (r : Registry) (v : Visited) : List Rule :=
  match r.lookup? v.kind with
  | some d => d.constraints.map Constraint.rule
  | none => []

def marks (r : Registry) (vs : List Visited) : List Mark :=
  vs.flatMap (fun v => (rulesOf r v).filterMap (markOf? v))

def wanted (r : Registry) (vs : List Visited) : List (Kind × AttributeRef) :=
  (vs.flatMap (fun v => (rulesOf r v).filterMap targetOf?)).eraseDups

def found (wanted : List (Kind × AttributeRef)) (vs : List Visited) : List Mark :=
  vs.flatMap (fun v =>
    (wanted.filter (fun w => w.1 == v.kind)).filterMap (fun w =>
      (w.2.on v.element).map (fun s => ⟨v.kind, w.2, s⟩)))

def count (m : Std.HashMap Mark Nat) (k : Mark) : Std.HashMap Mark Nat :=
  m.insert k (m.getD k 0 + 1)

def ofVisited (r : Registry) (vs : List Visited) : ValueIndex :=
  ⟨(marks r vs).foldl count ∅, (found (wanted r vs) vs).foldl (fun m k => m.insert k ()) ∅⟩

end ValueIndex

def Rule.defect? (index : ValueIndex) (place : Option (Package × String)) (v : Visited) :
    Rule → Option (Option String × Defect)
  | .unique attr caseSensitive => do
      let value ← attr.on v.element
      if 1 < index.counts.getD ⟨v.kind, attr, normalise caseSensitive value⟩ 0 then
        some (some attr.name, .duplicateValue attr.name value)
      else none
  | .reference attr targetKind targetAttribute => do
      let value ← attr.on v.element
      if index.targets.contains ⟨targetKind, targetAttribute, value⟩ then none
      else some (some attr.name, .missingTarget attr.name value targetKind targetAttribute.name)
  | .relationship attr => do
      let value ← attr.on v.element
      let (package, uri) ← place
      if (package.resolve? uri value).isSome then none
      else some (some attr.name, .missingRelationship attr.name value)
  | .exclusive attrs =>
      let present := attrs.filter (fun a => (a.on v.element).isSome)
      if 1 < present.length then
        some (none,
          .exclusiveTogether (present.map AttributeRef.name) (attrs.map AttributeRef.name))
      else none
  | .conditional required condition values => do
      let value ← condition.on v.element
      if values.contains value && (required.on v.element).isNone then
        some (none, .missingCompanion required.name condition.name value)
      else none

def Visited.place (v : Visited) : Option String → NodeRef
  | some attr => v.node.withAttribute attr
  | none => v.node

def constraintsFor (r : Registry) (f : Family) (v : Visited) : List Constraint :=
  match r.lookup? v.kind with
  | some d => d.constraints.filter (fun c => c.family.appliesTo f)
  | none => []

def meaningFindings (r : Registry) (f : Family) (place : Option (Package × String))
    (root : Element) : List Finding :=
  let vs := visited (.root root) root
  let index := ValueIndex.ofVisited r vs
  vs.flatMap (fun v =>
    (constraintsFor r f v).filterMap (fun c =>
      (c.rule.defect? index place v).map (fun d => .ofDefect (v.place d.1) d.2)))

namespace Context

def checkRule (index : ValueIndex) (v : Visited) (c : Context) (constraint : Constraint) :
    Context :=
  match constraint.rule.defect? index c.place v with
  | some d => c.report (.ofDefect (v.place d.1) d.2)
  | none => c

def checkMeaningBy (r : Registry) (c : Context) (root : Element) : Context :=
  let vs := visited (.root root) root
  let index := ValueIndex.ofVisited r vs
  let f := c.family
  vs.foldl (fun c v => (constraintsFor r f v).foldl (checkRule index v) c) c

def checkMeaning (c : Context) (root : Element) : Context := c.checkMeaningBy c.registry root

end Context

end OfficeSchema
