import OfficeSchema.Particle.Model

namespace OfficeSchema

inductive Wrapper where
  | content
  | choice
  | fallback
  deriving DecidableEq, Repr

inductive Node where
  | typed (kind : Kind) (identity : Identity) (capability : Capability)
  | unknown (name : String) (address : Option String)
  | comment (text : String)
  | instruction (text : String)
  | wrapper (w : Wrapper)
  deriving DecidableEq, Repr

namespace Node

def kind? : Node → Option Kind
  | .typed k _ _ => some k
  | _ => none

def identity? : Node → Option Identity
  | .typed _ i _ => some i
  | _ => none

def capability? : Node → Option Capability
  | .typed _ _ c => some c
  | _ => none

def isTyped : Node → Bool
  | .typed _ _ _ => true
  | _ => false

def isMisc : Node → Bool
  | .comment _ => true
  | .instruction _ => true
  | _ => false

def name : Node → String
  | .typed k _ _ => k.name
  | .unknown name _ => name
  | .comment _ => "#comment"
  | .instruction _ => "#pi"
  | .wrapper .content => "mc:AlternateContent"
  | .wrapper .choice => "mc:Choice"
  | .wrapper .fallback => "mc:Fallback"

end Node

structure Attribute where
  label : Option String
  localName : String
  namespaceId : Option Nat
  address : Option String
  value : String
  deriving DecidableEq, Repr

namespace Attribute

def isDeclaration (a : Attribute) : Bool :=
  a.label == some "xmlns" || (a.label == none && a.localName == "xmlns")

def isExtension (a : Attribute) : Bool := a.namespaceId.isNone && a.address.isSome

def name (a : Attribute) : String :=
  match a.label with
  | some label => label ++ ":" ++ a.localName
  | none => a.localName

def answers (a : Attribute) (id : Option Nat) (name : String) : Bool :=
  a.namespaceId == id && a.localName == name && !a.isExtension

def replaces (a b : Attribute) : Bool :=
  a.namespaceId == b.namespaceId && a.address == b.address && a.localName == b.localName

end Attribute

structure Element where
  node : Node
  attributes : List Attribute
  text : Option String
  children : List Element

namespace Element

def ofNode (n : Node) : Element := ⟨n, [], none, []⟩

def name (e : Element) : String := e.node.name

def kind? (e : Element) : Option Kind := e.node.kind?

def attribute? (e : Element) (id : Option Nat) (name : String) : Option Attribute :=
  e.attributes.find? (fun a => a.answers id name)

def value? (e : Element) (id : Option Nat) (name : String) : Option String :=
  (e.attribute? id name).map Attribute.value

def placeAttribute (a : Attribute) : List Attribute → List Attribute
  | [] => [a]
  | b :: bs => if a.replaces b then a :: bs else b :: placeAttribute a bs

def setAttribute (e : Element) (a : Attribute) : Element :=
  { e with attributes := placeAttribute a e.attributes }

def setText (e : Element) (s : String) : Element := { e with text := some s }

def appendText (e : Element) (s : String) : Element := { e with text := some (e.text.getD "" ++ s) }

def pushChild (e : Element) (c : Element) : Element := { e with children := e.children ++ [c] }

def removeChild (e : Element) (i : Nat) : Element := { e with children := e.children.eraseIdx i }

def compareIn (m : Model) (x y : Element) : Ordering :=
  Model.comparePaths (x.kind?.bind m.path?) (y.kind?.bind m.path?)

def insertionIndex (m : Model) (c : Element) : List Element → Nat
  | [] => 0
  | d :: ds => if compareIn m d c == .gt then 0 else insertionIndex m c ds + 1

theorem insertionIndex_le (m : Model) (c : Element) (ds : List Element) :
    insertionIndex m c ds ≤ ds.length := by
  induction ds with
  | nil => exact Nat.le_refl 0
  | cons d ds ih =>
      simp only [insertionIndex, List.length_cons]
      split
      · exact Nat.zero_le _
      · exact Nat.succ_le_succ ih

def insertOrdered (e : Element) (c : Element) (m : Model) : Element × Nat :=
  let i := insertionIndex m c e.children
  ({ e with children := e.children.take i ++ c :: e.children.drop i }, i)

def firstChild? (e : Element) (kind : String) : Option Element :=
  e.children.find? (fun c => c.kind? == some ⟨kind⟩)

def display (e : Element) : String := "<" ++ e.name ++ ">"

def hasText (e : Element) : Bool :=
  match e.text with
  | some s => !Text.allBlank s.toList
  | none => false

def descendant? : List Nat → Element → Option Element
  | [], e => some e
  | i :: is, e => (e.children[i]?).bind (descendant? is)

def modifyAt (f : Element → Element) : List Nat → Element → Element
  | [], e => f e
  | i :: is, e => { e with children := e.children.modify i (modifyAt f is) }

end Element

end OfficeSchema
