import OfficeSchema.Particle.Model
import OfficeSchema.Proofs.Particle.Members

/-!
The outline of a content model: the slots and the choice groups of a particle as they stand for
themselves, read off without a model that grows. A compiled model keeps of the outline the first
slot of every kind, and all choice groups.
-/

namespace OfficeSchema

def Route.slot (r : Route) (l : Leaf) : Slot :=
  { kind := l.kind
    path := r.path
    occurs := l.occurs
    total := r.total.times l.occurs
    minCount := capMul r.factor l.occurs.min
    presence := .of l.occurs.min r.anchor
    repeatable := r.repeatable
    choices := r.choices }

def Route.choice (r : Route) (o : Occurs) : ChoiceGroup := ⟨r.path, r.total, .of o.min r.anchor, []⟩

def ChoiceGroup.bare (g : ChoiceGroup) : ChoiceGroup := { g with kinds := [] }

namespace Model

def kinds (m : Model) : List Kind := m.slots.map Slot.kind

instance : Append Model := ⟨fun m n => ⟨m.slots ++ n.slots, m.groups ++ n.groups⟩⟩

@[simp] theorem slots_append (m n : Model) : (m ++ n).slots = m.slots ++ n.slots := rfl

@[simp] theorem groups_append (m n : Model) : (m ++ n).groups = m.groups ++ n.groups := rfl

@[simp] theorem kinds_append (m n : Model) : (m ++ n).kinds = m.kinds ++ n.kinds := by
  simp [kinds]

def Chooses (v : Version) (c : Compositor) (members : List Particle) : Prop :=
  c = .choice ∧ 0 < members.countP (Particle.isOffered v)

instance (v : Version) (c : Compositor) (members : List Particle) :
    Decidable (Chooses v c members) :=
  inferInstanceAs (Decidable (_ ∧ _))

def ownChoice (v : Version) (c : Compositor) (o : Occurs) (members : List Particle) (r : Route) :
    List ChoiceGroup :=
  if Chooses v c members then [(r.enter o).choice o] else []

def choiceNumber (v : Version) (c : Compositor) (members : List Particle) (n : Nat) : Option Nat :=
  if Chooses v c members then some n else none

def isAlone (v : Version) (c : Compositor) (members : List Particle) : Bool :=
  c = .choice ∧ members.countP (Particle.isOffered v) = 1

mutual

def outline (v : Version) : Particle → Route → Nat → Model
  | .leaf l, r, _ => ⟨if l.isAvailable v then [r.slot l] else [], []⟩
  | .group c o members, r, n =>
      ⟨[], ownChoice v c o members r⟩ ++
        outlineAll v c o (choiceNumber v c members n) (isAlone v c members) members 0 (r.enter o)
          (n + (ownChoice v c o members r).length)

def outlineAll (v : Version) (c : Compositor) (o : Occurs) (choice : Option Nat) (alone : Bool) :
    List Particle → Nat → Route → Nat → Model
  | [], _, _, _ => .empty
  | p :: ps, i, r, n =>
      let m := outline v p (r.member c o choice alone i) n
      m ++ outlineAll v c o choice alone ps (i + 1) r (n + m.groups.length)

end

theorem kinds_outlineAll {v : Version} {c : Compositor} {o : Occurs} {choice : Option Nat}
    {alone : Bool} {ps : List Particle}
    (h : ∀ p ∈ ps, ∀ r n, (outline v p r n).kinds = p.offeredKinds v) (i : Nat) (r : Route)
    (n : Nat) :
    (outlineAll v c o choice alone ps i r n).kinds =
      Particle.kindsOf (Particle.restrictAll v ps) := by
  induction ps generalizing i n with
  | nil => rfl
  | cons p ps ih =>
      rw [outlineAll, kinds_append, h p (by simp), ih (fun q hq => h q (by simp [hq]))]
      rw [Particle.restrictAll_cons, Particle.kindsOf_append, Particle.offeredKinds]

theorem kinds_outline (v : Version) (p : Particle) (r : Route) (n : Nat) :
    (outline v p r n).kinds = p.offeredKinds v := by
  induction p generalizing r n with
  | leaf l =>
      rw [Particle.offeredKinds, Particle.restrict]
      cases hl : l.isAvailable v with
      | false => simp [outline, kinds, hl, Particle.kindsOf, Particle.leavesOf]
      | true =>
          simp [outline, kinds, hl, Route.slot, Particle.kindsOf, Particle.leavesOf,
            Particle.leaves]
  | group c o members ih =>
      rw [outline, kinds_append, kinds_outlineAll ih]
      simp [kinds, Particle.offeredKinds, Particle.restrict, Particle.kindsOf_singleton,
        Particle.kinds_group]

section Members

variable {v : Version} {c : Compositor} {o : Occurs} {members : List Particle} {r : Route} {n : Nat}

def intoRoute (v : Version) (c : Compositor) (o : Occurs) (members : List Particle) (r : Route)
    (n i : Nat) : Route :=
  (r.enter o).member c o (choiceNumber v c members n) (isAlone v c members) i

def intoCount (v : Version) (c : Compositor) (o : Occurs) (members : List Particle) (r : Route)
    (n i : Nat) : Nat :=
  n + (ownChoice v c o members r).length +
    (outlineAll v c o (choiceNumber v c members n) (isAlone v c members) (members.take i) 0
      (r.enter o) (n + (ownChoice v c o members r).length)).groups.length

def intoOutline (v : Version) (c : Compositor) (o : Occurs) (members : List Particle) (r : Route)
    (n i : Nat) (p : Particle) : Model :=
  outline v p (intoRoute v c o members r n i) (intoCount v c o members r n i)

theorem mem_outlineAll {α : Type} {f : Model → List α} (hempty : f .empty = [])
    (happend : ∀ m d, f (m ++ d) = f m ++ f d) {choice : Option Nat} {alone : Bool}
    {ps : List Particle} {i : Nat} {a : α} :
    a ∈ f (outlineAll v c o choice alone ps i r n) ↔ ∃ k p, ps[k]? = some p ∧
      a ∈ f (outline v p (r.member c o choice alone (i + k))
        (n + (outlineAll v c o choice alone (ps.take k) i r n).groups.length)) := by
  induction ps generalizing i n with
  | nil => simp [outlineAll, hempty]
  | cons p ps ih =>
      rw [outlineAll, happend, List.mem_append, ih]
      constructor
      · rintro (h | ⟨k, q, hk, h⟩)
        · exact ⟨0, p, rfl, h⟩
        · refine ⟨k + 1, q, hk, ?_⟩
          simpa [outlineAll, Nat.add_assoc, Nat.add_comm 1 k] using h
      · rintro ⟨k, q, hk, h⟩
        cases k with
        | zero =>
            obtain rfl : p = q := by simpa using hk
            exact .inl h
        | succ k =>
            refine .inr ⟨k, q, hk, ?_⟩
            simpa [outlineAll, Nat.add_assoc, Nat.add_comm 1 k] using h

theorem mem_slots_group {s : Slot} :
    s ∈ (outline v (.group c o members) r n).slots ↔ ∃ i p, members[i]? = some p ∧
      s ∈ (intoOutline v c o members r n i p).slots := by
  simp [outline, mem_outlineAll (f := Model.slots) rfl slots_append, intoOutline, intoRoute,
    intoCount]

theorem mem_slots_leaf {l : Leaf} {s : Slot} :
    s ∈ (outline v (.leaf l) r n).slots ↔ l.isAvailable v = true ∧ s = r.slot l := by
  simp [outline]

theorem mem_ownChoice {g : ChoiceGroup} : g ∈ ownChoice v c o members r ↔
    Chooses v c members ∧ g = (r.enter o).choice o := by
  simp [ownChoice]

theorem mem_groups_group {g : ChoiceGroup} :
    g ∈ (outline v (.group c o members) r n).groups ↔ g ∈ ownChoice v c o members r ∨
      ∃ i p, members[i]? = some p ∧ g ∈ (intoOutline v c o members r n i p).groups := by
  simp [outline, mem_outlineAll (f := Model.groups) rfl groups_append, intoOutline, intoRoute,
    intoCount]

end Members

def fresh : List Kind → List Slot → List Slot
  | _, [] => []
  | known, s :: ss =>
      if s.kind ∈ known then fresh known ss else s :: fresh (known ++ [s.kind]) ss

theorem fresh_append (known : List Kind) (ss ts : List Slot) :
    fresh known (ss ++ ts) =
      fresh known ss ++ fresh (known ++ (fresh known ss).map Slot.kind) ts := by
  induction ss generalizing known with
  | nil => simp [fresh]
  | cons s ss ih =>
      by_cases hs : s.kind ∈ known
      · simp [fresh, hs, ih]
      · simp [fresh, hs, ih]

theorem fresh_eq_self {known : List Kind} {ss : List Slot}
    (h : (known ++ ss.map Slot.kind).Nodup) : fresh known ss = ss := by
  induction ss generalizing known with
  | nil => rfl
  | cons s ss ih =>
      have hs : s.kind ∉ known := fun hk =>
        (List.nodup_append.mp h).2.2 s.kind hk s.kind (by simp) rfl
      rw [fresh, if_neg hs, ih (by simpa using h)]

structure Grows (m n d : Model) : Prop where
  slots : n.slots = m.slots ++ fresh m.kinds d.slots
  groups : n.groups.map ChoiceGroup.bare = m.groups.map ChoiceGroup.bare ++ d.groups

namespace Grows

variable {m n q d e : Model}

theorem refl (m : Model) : Grows m m .empty := ⟨by simp [empty, fresh], by simp [empty]⟩

theorem trans (h : Grows m n d) (k : Grows n q e) : Grows m q (d ++ e) := by
  constructor
  · rw [k.slots, slots_append, fresh_append, ← List.append_assoc, ← h.slots]
    simp [kinds, h.slots]
  · rw [k.groups, h.groups, groups_append, List.append_assoc]

theorem length_groups (h : Grows m n d) : n.groups.length = m.groups.length + d.groups.length := by
  simpa using congrArg List.length h.groups

end Grows

theorem contains_eq (m : Model) (k : Kind) : m.contains k = decide (k ∈ m.kinds) := by
  simp [contains, kinds, List.any_eq]

theorem bare_enrol (k : Kind) (cs : List (Nat × Nat)) (gs : List ChoiceGroup) :
    (enrol k cs gs).map ChoiceGroup.bare = gs.map ChoiceGroup.bare := by
  induction cs generalizing gs with
  | nil => rfl
  | cons c cs ih =>
      rw [enrol, ih]
      apply List.ext_getElem?
      intro i
      rw [List.getElem?_map, List.getElem?_map, List.getElem?_modify]
      split
      · cases gs[i]? <;> rfl
      · simp

theorem addChoice_grows (m : Model) (r : Route) (o : Occurs) :
    Grows m (m.addChoice (r.enter o) o) ⟨[], [(r.enter o).choice o]⟩ :=
  ⟨by simp [addChoice, fresh], by simp [addChoice, Route.choice, ChoiceGroup.bare]⟩

theorem visitAll_grows {v : Version} {c : Compositor} {o : Occurs} {choice : Option Nat}
    {alone : Bool} {ps : List Particle}
    (h : ∀ p ∈ ps, ∀ r m, Grows m (visit v p r m) (outline v p r m.groups.length))
    (i : Nat) (r : Route) (m : Model) :
    Grows m (visitAll v c o choice alone ps i r m)
      (outlineAll v c o choice alone ps i r m.groups.length) := by
  induction ps generalizing i m with
  | nil => exact .refl m
  | cons p ps ih =>
      have hp := h p (by simp) (r.member c o choice alone i) m
      have hps := ih (fun q hq => h q (by simp [hq])) (i + 1)
        (visit v p (r.member c o choice alone i) m)
      rw [hp.length_groups] at hps
      exact hp.trans hps

theorem visit_grows (v : Version) (p : Particle) (r : Route) (m : Model) :
    Grows m (visit v p r m) (outline v p r m.groups.length) := by
  induction p generalizing r m with
  | leaf l =>
      simp only [visit, outline, contains_eq]
      cases hl : l.isAvailable v with
      | false => exact .refl m
      | true =>
          by_cases hk : l.kind ∈ m.kinds
          · exact ⟨by simp [hk, fresh, Route.slot], by simp [hk]⟩
          · refine ⟨?_, ?_⟩
            · simp [hk, fresh, Route.slot, addLeaf]
            · simp [hk, addLeaf, bare_enrol]
  | group c o members ih =>
      have hall (choice : Option Nat) (alone : Bool) (m : Model) :
          Grows m (visitAll v c o choice alone members 0 (r.enter o) m)
            (outlineAll v c o choice alone members 0 (r.enter o) m.groups.length) :=
        visitAll_grows ih 0 (r.enter o) m
      by_cases hc : Chooses v c members
      · have hn : 0 < members.countP (Particle.isOffered v) := hc.2
        have hadd := addChoice_grows m r o
        have hrest := hall (some m.groups.length)
          (members.countP (Particle.isOffered v) = 1) (m.addChoice (r.enter o) o)
        rw [hadd.length_groups] at hrest
        simpa [visit, outline, hc.1, hn, ownChoice, choiceNumber, isAlone, Chooses]
          using hadd.trans hrest
      · have hn : ¬(c = .choice ∧ 0 < members.countP (Particle.isOffered v)) := hc
        have ha : isAlone v c members = false := by
          simp only [isAlone, decide_eq_false_iff_not]
          rintro ⟨h, h'⟩
          exact hn ⟨h, by omega⟩
        have hown : Grows m m ⟨[], []⟩ := .refl m
        simpa only [visit, outline, if_neg hn, ownChoice, choiceNumber, ha, if_neg hc, Nat.add_zero,
          List.length_nil] using hown.trans (hall none false m)

theorem ofParticle_slots (v : Version) (p : Particle) :
    (ofParticle v p).slots = fresh [] (outline v p .root 0).slots := by
  simpa [ofParticle, empty, kinds] using (visit_grows v p .root .empty).slots

theorem ofParticle_groups (v : Version) (p : Particle) :
    (ofParticle v p).groups.map ChoiceGroup.bare = (outline v p .root 0).groups := by
  simpa [ofParticle, empty] using (visit_grows v p .root .empty).groups

theorem groups_getElem?_bare (v : Version) (p : Particle) (g : Nat) :
    (outline v p .root 0).groups[g]? = ((ofParticle v p).groups[g]?).map ChoiceGroup.bare := by
  rw [← ofParticle_groups, List.getElem?_map]

end Model

end OfficeSchema
