import OfficeSchema.Proofs.Particle.Members
import OfficeSchema.Particle.Model
import Std.Data.HashMap

/-!
Walks over content models. A walk keeps kinds and paths, the data of slots, choice groups and the
numbers of kinds in structures of their own, and the way to the particle that it visits on stacks;
every push is taken back. What it leaves behind gives the answers of the compiled model.
-/

namespace OfficeSchema

structure SlotData where
  occurs : Occurs
  total : Occurs
  minCount : Nat
  presence : Presence
  repeatable : List Bool
  choices : List (Nat × Nat)

def Slot.data (s : Slot) : SlotData :=
  ⟨s.occurs, s.total, s.minCount, s.presence, s.repeatable, s.choices⟩

/-- A content model in columns: `data` runs parallel to `lookup`, and `index` numbers its kinds. -/
structure Columns where
  lookup : List (Kind × Path)
  data : List SlotData
  groups : List ChoiceGroup
  index : Std.HashMap Kind Nat

/-- A walk at a particle: the columns so far, and a stack for each of the steps to the particle,
whether their groups repeat, and the choices among them. -/
structure Walker where
  columns : Columns
  path : Path
  repeatable : List Bool
  choices : List (Nat × Nat)

namespace Walker

def start : Walker := ⟨⟨[], [], [], ∅⟩, [], [], []⟩

def addLeaf (w : Walker) (total : Occurs) (anchor : Option Nat) (factor : Nat) (l : Leaf) :
    Walker :=
  { w with columns :=
    { lookup := w.columns.lookup ++ [(l.kind, w.path)]
      data := w.columns.data ++
        [{ occurs := l.occurs
           total := total.times l.occurs
           minCount := capMul factor l.occurs.min
           presence := .of l.occurs.min anchor
           repeatable := w.repeatable
           choices := w.choices }]
      groups := Model.enrol l.kind w.choices w.columns.groups
      index := w.columns.index.insert l.kind w.columns.lookup.length } }

def addChoice (w : Walker) (total : Occurs) (presence : Presence) : Walker :=
  { w with columns :=
    { w.columns with groups := w.columns.groups ++ [⟨w.path, total, presence, []⟩] } }

def push (w : Walker) (s : Step) (repeatable : Bool) (choice : Option (Nat × Nat)) : Walker :=
  { w with
    path := w.path ++ [s]
    repeatable := w.repeatable ++ [repeatable]
    choices := w.choices ++ choice.toList }

def pop (w : Walker) (chosen : Bool) : Walker :=
  { w with
    path := w.path.dropLast
    repeatable := w.repeatable.dropLast
    choices := if chosen then w.choices.dropLast else w.choices }

mutual

def walk (v : Version) : Particle → Occurs → Option Nat → Nat → Walker → Walker
  | .leaf l, total, anchor, factor, w =>
      if l.isAvailable v && !w.columns.index.contains l.kind then w.addLeaf total anchor factor l
      else w
  | .group c o members, total, anchor, factor, w =>
      let total := total.times o
      let anchor := if o.min = 0 then some w.path.length else anchor
      let factor := if o.min = 0 then 1 else capMul factor o.min
      let offered := members.countP (Particle.isOffered v)
      if c = .choice ∧ 0 < offered then
        walkAll v c o (some w.columns.groups.length) (offered = 1) members 0 total anchor factor
          (w.addChoice total (.of o.min anchor))
      else
        walkAll v c o none false members 0 total anchor factor w

def walkAll (v : Version) (c : Compositor) (o : Occurs) (choice : Option Nat) (alone : Bool) :
    List Particle → Nat → Occurs → Option Nat → Nat → Walker → Walker
  | [], _, _, _, _, w => w
  | p :: ps, i, total, anchor, factor, w =>
      let inside := w.push (.toMember c i) o.isRepeatable (choice.map (fun g => (g, i)))
      let free := choice.isSome && !alone
      let behind := walk v p total (if free then some inside.path.length else anchor)
        (if free then 1 else factor) inside
      walkAll v c o choice alone ps (i + 1) total anchor factor (behind.pop choice.isSome)

end

end Walker

def Columns.compile (v : Version) (p : Particle) : Columns :=
  (Walker.walk v p .once none 1 .start).columns

namespace Columns

structure Mirrors (x : Columns) (m : Model) : Prop where
  lookup : x.lookup = m.lookup
  data : x.data = m.slots.map Slot.data
  groups : x.groups = m.groups
  index : ∀ k, x.index[k]? = m.indexOf? k

variable {x : Columns} {m : Model}

theorem Mirrors.parallel (h : x.Mirrors m) : x.lookup.length = x.data.length := by
  simp [h.lookup, h.data, Model.lookup]

theorem Mirrors.contains (h : x.Mirrors m) (k : Kind) : x.index.contains k = m.contains k := by
  rw [Std.HashMap.contains_eq_isSome_getElem?, h.index, Model.indexOf?, List.findIdx?_isSome,
    Model.contains]

end Columns

namespace Walker

variable {v : Version} {c : Compositor} {o : Occurs} {choice : Option Nat} {alone : Bool}
  {w : Walker} {r : Route} {m : Model}

structure Follows (w : Walker) (r : Route) (m : Model) : Prop where
  path : w.path = r.path
  repeatable : w.repeatable = r.repeatable
  choices : w.choices = r.choices
  columns : w.columns.Mirrors m

theorem follows_start : start.Follows .root .empty where
  path := rfl
  repeatable := rfl
  choices := rfl
  columns := ⟨rfl, rfl, rfl, fun k => by simp [start, Model.indexOf?, Model.empty]⟩

theorem Follows.addLeaf (h : w.Follows r m) {l : Leaf} (hnew : m.contains l.kind = false) :
    (w.addLeaf r.total r.anchor r.factor l).Follows r (m.addLeaf r l) where
  path := h.path
  repeatable := h.repeatable
  choices := h.choices
  columns := by
    refine ⟨?_, ?_, ?_, fun k => ?_⟩
    · simp [Walker.addLeaf, Model.addLeaf, Model.lookup, h.columns.lookup, h.path]
    · simp [Walker.addLeaf, Model.addLeaf, Slot.data, h.columns.data, h.repeatable, h.choices]
    · simp [Walker.addLeaf, Model.addLeaf, h.columns.groups, h.choices]
    · have hold : m.indexOf? l.kind = none := by
        rw [← Option.isNone_iff_eq_none, ← Option.not_isSome, Bool.not_eq_true', Model.indexOf?,
          List.findIdx?_isSome]
        exact hnew
      have hlength : w.columns.lookup.length = m.slots.length := by
        simp [h.columns.lookup, Model.lookup]
      simp only [Walker.addLeaf, Model.addLeaf, Std.HashMap.getElem?_insert, h.columns.index,
        hlength, Model.indexOf?, List.findIdx?_append, List.findIdx?_singleton] at hold ⊢
      by_cases hk : l.kind = k
      · simp [← hk, hold]
      · simp [hk]

theorem Follows.addChoice (h : w.Follows r m) (o : Occurs) :
    (w.addChoice r.total (.of o.min r.anchor)).Follows r (m.addChoice r o) where
  path := h.path
  repeatable := h.repeatable
  choices := h.choices
  columns :=
    ⟨h.columns.lookup, h.columns.data, by
      simp [Walker.addChoice, Model.addChoice, h.columns.groups, h.path], h.columns.index⟩

theorem Follows.enter (h : w.Follows r m) (o : Occurs) : w.Follows (r.enter o) m :=
  ⟨h.path, h.repeatable, h.choices, h.columns⟩

theorem Follows.leave (h : w.Follows (r.enter o) m) : w.Follows r m :=
  ⟨h.path, h.repeatable, h.choices, h.columns⟩

theorem Follows.push (h : w.Follows r m) (c : Compositor) (o : Occurs) (choice : Option Nat)
    (alone : Bool) (i : Nat) :
    (w.push (.toMember c i) o.isRepeatable (choice.map (fun g => (g, i)))).Follows
      (r.member c o choice alone i) m where
  path := by simp [Walker.push, Route.member, h.path]
  repeatable := by simp [Walker.push, Route.member, h.repeatable]
  choices := by simp [Walker.push, Route.member, h.choices]
  columns := h.columns

theorem Follows.pop {i : Nat} (h : w.Follows (r.member c o choice alone i) m) :
    (w.pop choice.isSome).Follows r m where
  path := by simp [Walker.pop, h.path, Route.member]
  repeatable := by simp [Walker.pop, h.repeatable, Route.member]
  choices := by cases choice <;> simp [Walker.pop, h.choices, Route.member]
  columns := h.columns

theorem walkAll_follows {ps : List Particle}
    (hps : ∀ p ∈ ps, ∀ w r m, w.Follows r m →
      (walk v p r.total r.anchor r.factor w).Follows r (Model.visit v p r m))
    (i : Nat) (h : w.Follows r m) :
    (walkAll v c o choice alone ps i r.total r.anchor r.factor w).Follows r
      (Model.visitAll v c o choice alone ps i r m) := by
  induction ps generalizing i w m with
  | nil => exact h
  | cons p ps ih =>
      have hinside := h.push c o choice alone i
      have hbehind := (hps p (by simp) _ _ _ hinside).pop
      rw [walkAll, Model.visitAll]
      refine ih (fun q hq => hps q (by simp [hq])) (i + 1) ?_
      simp only [hinside.path]
      exact hbehind

/-- A walk over a particle adds to the columns what the visit adds to the model. -/
theorem walk_follows (h : w.Follows r m) (p : Particle) :
    (walk v p r.total r.anchor r.factor w).Follows r (Model.visit v p r m) := by
  induction p generalizing w r m with
  | leaf l =>
      rw [walk, Model.visit, h.columns.contains]
      split
      · next hl =>
          simp only [Bool.and_eq_true, Bool.not_eq_true'] at hl
          exact h.addLeaf hl.2
      · exact h
  | group c o members ih =>
      have hmembers : ∀ p ∈ members, ∀ w r m, w.Follows r m →
          (walk v p r.total r.anchor r.factor w).Follows r (Model.visit v p r m) :=
        fun p hp _ _ _ h => ih p hp h
      rw [walk, Model.visit, h.path, h.columns.groups]
      split
      · exact (walkAll_follows hmembers 0 ((h.enter o).addChoice o)).leave
      · exact (walkAll_follows hmembers 0 (h.enter o)).leave

end Walker

theorem Columns.mirrors_compile (v : Version) (p : Particle) :
    (compile v p).Mirrors (.ofParticle v p) :=
  (Walker.walk_follows Walker.follows_start p).columns

end OfficeSchema
