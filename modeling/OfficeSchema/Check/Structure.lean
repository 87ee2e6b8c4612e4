import OfficeSchema.Check.Value

namespace OfficeSchema

def Model.number (m : Model) (k : Kind) : Nat := m.slots.findIdx (fun s => s.kind == k)

/-- Whether a slot may not follow another: its place comes before it, and no group around both
repeats. -/
def Slot.precedes (next previous : Slot) : Bool :=
  match Path.divergence? previous.path next.path with
  | none => false
  | some depth =>
      match previous.path[depth]?, next.path[depth]? with
      | some before, some after =>
          after.position < before.position && !(previous.repeatable.take (depth + 1)).any id
      | _, _ => false

/-- What was counted of the children so far: those in each slot, by its number, the alternatives
taken of each choice group, the paths of all matched children and the slot of the last one that was
in sequence. -/
structure Tally where
  counts : List Nat
  taken : List (List Nat)
  matched : List Path
  last : Option Slot

namespace Tally

def start (m : Model) : Tally := ⟨m.slots.map (fun _ => 0), m.groups.map (fun _ => []), [], none⟩

def count (m : Model) (t : Tally) (k : Kind) : Nat := t.counts.getD (m.number k) 0

def alternatives (t : Tally) (group : Nat) : List Nat := t.taken.getD group []

def isDemanded (t : Tally) (p : Path) : Presence → Bool
  | .optional => false
  | .required => true
  | .within steps => t.matched.any (fun q => q.sharesPrefix p steps)

def isOutOfSequence (t : Tally) (s : Slot) : Bool :=
  match t.last with
  | none => false
  | some previous => s.precedes previous

/-- A child out of sequence still counts toward its slot. -/
def take (m : Model) (t : Tally) (s : Slot) : Tally where
  counts := t.counts.modify (m.number s.kind) (· + 1)
  taken := t.taken.mapIdx (fun g taken =>
    match s.choices.lookup g with
    | some a => taken.insert a
    | none => taken)
  matched := s.path :: t.matched
  last := if t.isOutOfSequence s then t.last else some s

def overfull (m : Model) (t : Tally) (s : Slot) : List ChoiceGroup :=
  s.choices.filterMap (fun c =>
    let taken := t.alternatives c.1
    match m.groups[c.1]? with
    | some group =>
        if !taken.contains c.2 && group.total.isExceeded (taken.length + 1) then some group
        else none
    | none => none)

def slotDefects (m : Model) (parent : String) (t : Tally) (s : Slot) : List Defect :=
  (if t.isOutOfSequence s then [.unexpectedChild parent s.kind] else []) ++
  (if s.total.isExceeded (t.count m s.kind + 1) then [.tooMany parent s.kind] else []) ++
  (t.overfull m s).map (fun c =>
    .tooManyAlternatives parent s.kind (c.kinds.filter (fun k => k != s.kind)))

def missing (m : Model) (parent : String) (t : Tally) : List Defect :=
  (m.slots.filter (fun s =>
    t.count m s.kind < s.minCount && t.isDemanded s.path s.presence)).map
      (fun s => .incomplete parent [s.kind]) ++
  (m.groups.zipIdx.filter (fun c =>
    (t.alternatives c.2).isEmpty && t.isDemanded c.1.place c.1.presence)).map
      (fun c => .incomplete parent c.1.kinds)

end Tally

inductive ChildRole where
  | slot (s : Slot)
  | stranger (name : String)
  | ignored

def Node.role (m : Model) : Node → ChildRole
  | .typed k _ _ =>
      match m.slot? k with
      | some s => .slot s
      | none => .stranger k.name
  | .unknown name _ => .stranger name
  | _ => .ignored

def tallyFindings (m : Model) (parent : NodeRef) : Tally → List (Element × NodeRef) → List Finding
  | t, [] => (t.missing m parent.element).map (.ofDefect parent)
  | t, (c, r) :: cs =>
      match c.node.role m with
      | .slot s =>
          (t.slotDefects m parent.element s).map (.ofDefect r) ++
            tallyFindings m parent (t.take m s) cs
      | .stranger name =>
          .ofDefect r (.invalidChild parent.element name (m.slots.map Slot.kind)) ::
            tallyFindings m parent t cs
      | .ignored => tallyFindings m parent t cs

def contentFindings (m : Model) (parent : NodeRef) (children : List Element) : List Finding :=
  tallyFindings m parent (.start m) (children.zip (parent.children children))

def Attribute.isExempt (a : Attribute) : Bool :=
  a.isDeclaration || a.isExtension || a.namespaceId == some Namespace.compatibilityId

def missingAttributes (v : Version) (d : Declaration) (e : Element) : List Defect :=
  (d.attributes.filter (fun a =>
    a.required && a.isAvailable v && (e.attribute? a.namespaceId a.localName).isNone)).map
      (fun a => .missingAttribute a.name)

/-- The declaration that an attribute is checked against. The first one under its name counts, and
only if the version has it. -/
def declarationOf? (v : Version) (d : Declaration) (a : Attribute) : Option AttributeDecl :=
  (d.attribute? a.namespaceId a.localName).filter (fun decl => decl.isAvailable v)

def attributeFindings (v : Version) (d : Declaration) (node : NodeRef) (a : Attribute) :
    List Finding :=
  if a.isExempt then []
  else
    let place := node.withAttribute a.name
    match declarationOf? v d a with
    | some decl => (ValueFrame.ofRaw decl.name decl.type a.value true place).findings
    | none => [.ofDefect place (.undeclaredAttribute a.name)]

def attributesFindings (v : Version) (d : Declaration) (node : NodeRef) (e : Element) :
    List Finding :=
  (missingAttributes v d e).map (.ofDefect node) ++
    e.attributes.flatMap (attributeFindings v d node)

def leafChildren (node : NodeRef) (e : Element) : List Finding :=
  if e.children.any (fun c => !c.node.isMisc) then [.ofDefect node (.childInLeaf node.element)]
  else []

def leafText (d : Declaration) (node : NodeRef) (e : Element) : List Finding :=
  (ValueFrame.ofRaw d.kind.name d.textType (e.text.getD "") false node).findings

def elementFindings (r : Registry) (d : Declaration) (c : Capability) (node : NodeRef)
    (e : Element) : List Finding :=
  attributesFindings r.version d node e ++
    match c with
    | .composite =>
        (if e.hasText then [.ofDefect node (.textInComposite node.element)] else []) ++
          match r.content? d.kind with
          | some content => contentFindings content.model node e.children
          | none => []
    | .text => leafChildren node e ++ leafText d node e
    | .empty =>
        leafChildren node e ++
          (if e.hasText then [.ofDefect node (.textInEmpty node.element)] else [])

def Node.isEntered (r : Registry) : Node → Bool
  | .typed k _ .composite => r.contains k
  | .wrapper _ => true
  | _ => false

def nodeFindings (r : Registry) (node : NodeRef) (e : Element) : List Finding :=
  match e.node with
  | .typed k _ c =>
      match r.lookup? k with
      | some d => elementFindings r d c node e
      | none => []
  | _ => []

mutual

def treeFindings (r : Registry) (node : NodeRef) : Element → List Finding
  | ⟨n, attributes, text, children⟩ =>
      nodeFindings r node ⟨n, attributes, text, children⟩ ++
        (if n.isEntered r then forestFindings r node [] children else [])

/-- Findings on the children of a node, of which those named in `before` came before. -/
def forestFindings (r : Registry) (parent : NodeRef) (before : List String) :
    List Element → List Finding
  | [] => []
  | c :: cs =>
      treeFindings r (parent.child before c.name) c ++
        forestFindings r parent (c.name :: before) cs

end

def structureFindings (r : Registry) (root : Element) : List Finding :=
  treeFindings r (.root root) root

namespace Context

def checkTally (m : Model) (parent : NodeRef) :
    Tally → List (Element × NodeRef) → Context → Context
  | t, [], c => c.reportAll ((t.missing m parent.element).map (.ofDefect parent))
  | t, (e, r) :: es, c =>
      match e.node.role m with
      | .slot s =>
          checkTally m parent (t.take m s) es
            (c.reportAll ((t.slotDefects m parent.element s).map (.ofDefect r)))
      | .stranger name =>
          checkTally m parent t es
            (c.report (.ofDefect r (.invalidChild parent.element name (m.slots.map Slot.kind))))
      | .ignored => checkTally m parent t es c

def checkContent (m : Model) (parent : NodeRef) (children : List Element) (c : Context) : Context :=
  c.checkTally m parent (.start m) (children.zip (parent.children children))

def checkAttribute (v : Version) (d : Declaration) (node : NodeRef) (c : Context) (a : Attribute) :
    Context :=
  if a.isExempt then c
  else
    let place := node.withAttribute a.name
    match declarationOf? v d a with
    | some decl => c.checkFramed (.ofRaw decl.name decl.type a.value true place)
    | none => c.report (.ofDefect place (.undeclaredAttribute a.name))

def checkAttributes (d : Declaration) (node : NodeRef) (e : Element) (c : Context) : Context :=
  let v := c.registry.version
  e.attributes.foldl (checkAttribute v d node)
    (c.reportAll ((missingAttributes v d e).map (.ofDefect node)))

def checkLeafChildren (node : NodeRef) (e : Element) (c : Context) : Context :=
  if e.children.any (fun d => !d.node.isMisc) then
    c.report (.ofDefect node (.childInLeaf node.element))
  else c

def checkNoText (node : NodeRef) (e : Element) (defect : String → Defect) (c : Context) : Context :=
  if e.hasText then c.report (.ofDefect node (defect node.element)) else c

def checkElement (r : Registry) (d : Declaration) (capability : Capability) (node : NodeRef)
    (e : Element) (c : Context) : Context :=
  let c := c.checkAttributes d node e
  match capability with
  | .composite =>
      let c := c.checkNoText node e .textInComposite
      match r.content? d.kind with
      | some content => c.checkContent content.model node e.children
      | none => c
  | .text =>
      (c.checkLeafChildren node e).checkFramed
        (.ofRaw d.kind.name d.textType (e.text.getD "") false node)
  | .empty => (c.checkLeafChildren node e).checkNoText node e .textInEmpty

def checkNode (r : Registry) (node : NodeRef) (e : Element) (c : Context) : Context :=
  match e.node with
  | .typed k _ capability =>
      match r.lookup? k with
      | some d => c.checkElement r d capability node e
      | none => c
  | _ => c

mutual

def checkTree (r : Registry) (node : NodeRef) : Element → Context → Context
  | ⟨n, attributes, text, children⟩, c =>
      let c := c.checkNode r node ⟨n, attributes, text, children⟩
      if n.isEntered r then checkForest r node [] children c else c

def checkForest (r : Registry) (parent : NodeRef) (before : List String) :
    List Element → Context → Context
  | [], c => c
  | e :: es, c =>
      checkForest r parent (e.name :: before) es (checkTree r (parent.child before e.name) e c)

end

def checkStructureBy (r : Registry) (c : Context) (root : Element) : Context :=
  c.checkTree r (.root root) root

def checkStructure (c : Context) (root : Element) : Context := c.checkStructureBy c.registry root

end Context

end OfficeSchema
