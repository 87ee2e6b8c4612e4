import OfficeSchema.Particle.Path

/-!
Compiled content models. For one version, a content model is flattened to a list of slots, one for
every kind that the model offers, in depth-first order, and a list of its choice groups. A slot
knows its path, its bounds, what demands it and the choice groups around it.
-/

namespace OfficeSchema

/-- What demands a slot or a choice group: nothing, the parent itself, or anything that is present
and shares the first steps of its path. -/
inductive Presence where
  | optional
  | required
  | within (steps : Nat)
  deriving DecidableEq, Repr

def Presence.of (min : Nat) (anchor : Option Nat) : Presence :=
  if min = 0 then .optional
  else match anchor with
    | none => .required
    | some n => .within n

structure Slot where
  kind : Kind
  path : Path
  occurs : Occurs
  total : Occurs
  minCount : Nat
  presence : Presence
  repeatable : List Bool
  choices : List (Nat × Nat)
  deriving DecidableEq, Repr

structure ChoiceGroup where
  place : Path
  total : Occurs
  presence : Presence
  kinds : List Kind
  deriving DecidableEq, Repr

structure Model where
  slots : List Slot
  groups : List ChoiceGroup
  deriving DecidableEq, Repr

structure Route where
  path : Path
  repeatable : List Bool
  choices : List (Nat × Nat)
  total : Occurs
  /-- Number of steps to the nearest optional surroundings. -/
  anchor : Option Nat
  /-- Product of the minima since those surroundings. -/
  factor : Nat
  deriving DecidableEq, Repr

namespace Route

def root : Route := ⟨[], [], [], .once, none, 1⟩

def enter (r : Route) (o : Occurs) : Route :=
  { r with
    total := r.total.times o
    anchor := if o.min = 0 then some r.path.length else r.anchor
    factor := if o.min = 0 then 1 else capMul r.factor o.min }

/-- The way on to a member of a group: `choice` is the number of the choice group that the member
is an alternative of, and `alone` says that it has no rival there. A member with rivals is demanded
only by its own content. -/
def member (r : Route) (c : Compositor) (o : Occurs) (choice : Option Nat) (alone : Bool)
    (i : Nat) : Route :=
  let path := r.path ++ [Step.toMember c i]
  let free := choice.isSome && !alone
  { r with
    path := path
    repeatable := r.repeatable ++ [o.isRepeatable]
    choices := r.choices ++ (choice.map (fun g => (g, i))).toList
    anchor := if free then some path.length else r.anchor
    factor := if free then 1 else r.factor }

end Route

namespace Model

def empty : Model := ⟨[], []⟩

def indexOf? (m : Model) (k : Kind) : Option Nat := m.slots.findIdx? (fun s => s.kind == k)

def slot? (m : Model) (k : Kind) : Option Slot := m.slots.find? (fun s => s.kind == k)

def contains (m : Model) (k : Kind) : Bool := m.slots.any (fun s => s.kind == k)

def path? (m : Model) (k : Kind) : Option Path := (m.slot? k).map Slot.path

def lookup (m : Model) : List (Kind × Path) := m.slots.map (fun s => (s.kind, s.path))

def enrol (k : Kind) : List (Nat × Nat) → List ChoiceGroup → List ChoiceGroup
  | [], gs => gs
  | (g, _) :: cs, gs => enrol k cs (gs.modify g (fun c => { c with kinds := c.kinds ++ [k] }))

def addLeaf (m : Model) (r : Route) (l : Leaf) : Model :=
  { slots := m.slots ++
      [{ kind := l.kind
         path := r.path
         occurs := l.occurs
         total := r.total.times l.occurs
         minCount := capMul r.factor l.occurs.min
         presence := .of l.occurs.min r.anchor
         repeatable := r.repeatable
         choices := r.choices }]
    groups := enrol l.kind r.choices m.groups }

def addChoice (m : Model) (r : Route) (o : Occurs) : Model :=
  { m with groups := m.groups ++ [⟨r.path, r.total, .of o.min r.anchor, []⟩] }

mutual

/-- Adds what a particle offers. A kind that is already offered keeps its first slot. -/
def visit (v : Version) : Particle → Route → Model → Model
  | .leaf l, r, m =>
      if l.isAvailable v && !m.contains l.kind then m.addLeaf r l else m
  | .group c o members, r, m =>
      let offered := members.countP (Particle.isOffered v)
      let r := r.enter o
      if c = .choice ∧ 0 < offered then
        visitAll v c o (some m.groups.length) (offered = 1) members 0 r (m.addChoice r o)
      else
        visitAll v c o none false members 0 r m

def visitAll (v : Version) (c : Compositor) (o : Occurs) (choice : Option Nat) (alone : Bool) :
    List Particle → Nat → Route → Model → Model
  | [], _, _, m => m
  | p :: ps, i, r, m =>
      visitAll v c o choice alone ps (i + 1) r (visit v p (r.member c o choice alone i) m)

end

def ofParticle (v : Version) (p : Particle) : Model := visit v p .root .empty

def comparePaths : Option Path → Option Path → Ordering
  | none, none => .eq
  | none, some _ => .lt
  | some _, none => .gt
  | some p, some q => p.compare q

def compare (m : Model) (x y : Kind) : Ordering := comparePaths (m.path? x) (m.path? y)

end Model

structure Content where
  particle : Particle
  version : Version
  compiled? : Option Model

namespace Content

def fresh (p : Particle) (v : Version) : Content := ⟨p, v, none⟩

def isCompiled (c : Content) : Bool := c.compiled?.isSome

def model (c : Content) : Model := c.compiled?.getD (.ofParticle c.version c.particle)

def compiled (c : Content) : Content := { c with compiled? := some c.model }

theorem model_fresh (p : Particle) (v : Version) : (fresh p v).model = .ofParticle v p := rfl

theorem model_compiled (c : Content) : c.compiled.model = c.model := rfl

theorem isCompiled_compiled (c : Content) : c.compiled.isCompiled = true := rfl

end Content

end OfficeSchema
