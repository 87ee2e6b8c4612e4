import OfficeSchema.Markup.Attributes
import OfficeSchema.Namespace.Scope
import OfficeSchema.Registry

/-!
Documents. The root is typed by its identity alone; an element below is typed only if the content
model of the typed element around it offers its kind, and wrappers of alternative content do not
count as elements around it.
-/

namespace OfficeSchema

structure OpenElement where
  node : Node
  attributes : List Attribute
  text : Option String
  children : List Element
  model? : Option Model
  scope : Namespace.Scope

namespace OpenElement

def appendText (o : OpenElement) (s : String) : OpenElement :=
  { o with text := some (o.text.getD "" ++ s) }

def addChild (o : OpenElement) (c : Element) : OpenElement := { o with children := c :: o.children }

/-- A blank text counts only in a text leaf. -/
def settledText (n : Node) (text : Option String) : Option String :=
  if n.capability? == some .text then text
  else text.filter (fun s => !Text.allBlank s.toList)

def close (o : OpenElement) : Element :=
  ⟨o.node, o.attributes, settledText o.node o.text, o.children.reverse⟩

end OpenElement

namespace Document

def wrapperNamed? : String → Option Wrapper
  | "AlternateContent" => some .content
  | "Choice" => some .choice
  | "Fallback" => some .fallback
  | _ => none

def declare (s : Namespace.Scope) (key value : String) : Namespace.Scope :=
  if key == "xmlns" then s.setDefault value
  else match Text.stripped? "xmlns:".toList key.toList with
    | some label => s.bind (String.ofList label) value
    | none => s

def declareAll (s : Namespace.Scope) : List (String × String) → Namespace.Scope
  | [] => s
  | (key, value) :: r => declareAll (declare s key value) r

inductive Place where
  | root
  | under (model? : Option Model)

def Place.create? (r : Registry) (i : Identity) : Place → Option Element
  | .root => r.create? i
  | .under (some m) => r.createIn? m i
  | .under none => none

def nodeOf (r : Registry) (place : Place) (name : String) (q : QualifiedName) : Node :=
  let wrapper? :=
    if q.address == some Namespace.compatibilityAddress then wrapperNamed? q.localName else none
  match wrapper? with
  | some w => .wrapper w
  | none =>
      let identity? :=
        (q.address.bind r.namespaces.idOf?).map (fun id => Identity.mk id q.localName)
      match identity?.bind (fun i => place.create? r i) with
      | some e => e.node
      | none => .unknown name q.address

/-- An attribute with its name resolved; the default namespace does not apply to it. -/
def resolveAttribute (t : Namespace.Table) (s : Namespace.Scope) (key value : String) :
    Except Error Attribute :=
  match Text.splitColon key with
  | none => .ok ⟨none, key, none, none, value⟩
  | some (label, rest) =>
      match s.address? label with
      | none => .error (.naming (.unknownPrefix label))
      | some address => .ok ⟨some label, rest, t.idOf? address, some address, value⟩

def resolveAttributes (t : Namespace.Table) (s : Namespace.Scope) :
    List (String × String) → Except Error (List Attribute)
  | [] => .ok []
  | (key, value) :: r =>
      match resolveAttribute t s key value with
      | .error e => .error e
      | .ok a =>
          match resolveAttributes t s r with
          | .error e => .error e
          | .ok as => .ok (a :: as)

def modelBelow (r : Registry) (around : Option Model) : Node → Option Model
  | .typed k _ _ => (r.content? k).map Content.model
  | .wrapper _ => around
  | _ => none

def Place.model? : Place → Option Model
  | .root => none
  | .under m => m

/-- Opens an element: its attributes are read, then its name is resolved, then theirs. -/
def openElement (r : Registry) (place : Place) (scope : Namespace.Scope) (tag : Markup.Tag) :
    Except Error OpenElement :=
  match tag.attributes with
  | .error f => .error (.markup f)
  | .ok pairs =>
      let scope := declareAll scope pairs
      let name := String.ofList tag.name
      match scope.resolve name with
      | .error p => .error (.naming p)
      | .ok q =>
          let node := nodeOf r place name q
          match resolveAttributes r.namespaces scope pairs with
          | .error e => .error e
          | .ok attributes =>
              .ok ⟨node, attributes, none, [], modelBelow r place.model? node, scope⟩

/-- What was read: the open elements, the innermost first, and the root once it is closed. -/
structure State where
  stack : List OpenElement
  root : Option Element

namespace State

def start : State := ⟨[], none⟩

def place (s : State) : Place :=
  match s.stack with
  | [] => .root
  | o :: _ => .under o.model?

def scope (s : State) : Namespace.Scope :=
  match s.stack with
  | [] => .empty
  | o :: _ => o.scope

def settle (s : State) (e : Element) : Except Error State :=
  match s.stack with
  | o :: os => .ok { s with stack := o.addChild e :: os }
  | [] => if s.root.isSome then .error (.markup .secondRoot) else .ok { s with root := some e }

def onTop (s : State) (f : OpenElement → OpenElement) : State :=
  match s.stack with
  | o :: os => { s with stack := f o :: os }
  | [] => s

def step (r : Registry) (s : State) : Markup.Event → Except Error State
  | .opening tag =>
      match openElement r s.place s.scope tag with
      | .ok o => .ok { s with stack := o :: s.stack }
      | .error e => .error e
  | .single tag =>
      match openElement r s.place s.scope tag with
      | .ok o => s.settle o.close
      | .error e => .error e
  | .closing =>
      match s.stack with
      | o :: os => { s with stack := os }.settle o.close
      | [] => .ok s
  | .text t =>
      if s.stack.isEmpty then .ok s
      else match Markup.unescape t with
        | some u => .ok (s.onTop (fun o => o.appendText (String.ofList u)))
        | none => .error (.markup .badTextEscape)
  | .verbatim t => .ok (s.onTop (fun o => o.appendText (String.ofList t)))
  | .comment t => .ok (s.onTop (fun o => o.addChild (.ofNode (.comment (String.ofList t)))))
  | .instruction t =>
      .ok (s.onTop (fun o => o.addChild (.ofNode (.instruction (String.ofList t)))))
  | .malformed => .error (.markup .malformed)

def run (r : Registry) : State → List Markup.Event → Except Error State
  | s, [] => .ok s
  | s, e :: es =>
      match s.step r e with
      | .ok t => run r t es
      | .error f => .error f

def finish (s : State) : Except Error Element :=
  if s.stack.isEmpty then
    match s.root with
    | some e => .ok e
    | none => .error (.markup .noRoot)
  else .error (.markup .unexpectedEnd)

end State

def ofEvents (r : Registry) (es : List Markup.Event) : Except Error Element :=
  match State.run r .start es with
  | .ok s => s.finish
  | .error e => .error e

def parse (r : Registry) (xml : String) : Except Error Element :=
  ofEvents r (Markup.events xml.toList)

end Document

end OfficeSchema
