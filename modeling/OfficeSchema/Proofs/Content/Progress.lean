import Mathlib.Data.List.Nodup
import OfficeSchema.Check.Structure
import OfficeSchema.Proofs.Particle.Outline

/-!
Progress of a content check. What a tally has counted is a function of the slots that the children
so far have filled; the findings on content are those of a check that keeps only these slots.
-/

namespace OfficeSchema

/-- The slots of all matched children, the latest first, and the slot of the last child that was in
sequence. -/
structure Progress where
  seen : List Slot
  last : Option Slot

namespace Progress

def start : Progress := ⟨[], none⟩

def count (g : Progress) (k : Kind) : Nat := g.seen.countP (fun s => s.kind == k)

def alternatives (g : Progress) (group : Nat) : List Nat :=
  (g.seen.filterMap (fun s => s.choices.lookup group)).eraseDups

def reaches (g : Progress) (p : Path) (steps : Nat) : Bool :=
  g.seen.any (fun s => s.path.sharesPrefix p steps)

def isDemanded (g : Progress) (p : Path) : Presence → Bool
  | .optional => false
  | .required => true
  | .within steps => g.reaches p steps

def isOutOfSequence (g : Progress) (s : Slot) : Bool :=
  match g.last with
  | none => false
  | some previous => s.precedes previous

def take (g : Progress) (s : Slot) : Progress :=
  ⟨s :: g.seen, if g.isOutOfSequence s then g.last else some s⟩

def overfull (m : Model) (g : Progress) (s : Slot) : List ChoiceGroup :=
  s.choices.filterMap (fun c =>
    let taken := g.alternatives c.1
    match m.groups[c.1]? with
    | some group =>
        if !taken.contains c.2 && group.total.isExceeded (taken.length + 1) then some group
        else none
    | none => none)

def slotDefects (m : Model) (parent : String) (g : Progress) (s : Slot) : List Defect :=
  (if g.isOutOfSequence s then [.unexpectedChild parent s.kind] else []) ++
  (if s.total.isExceeded (g.count s.kind + 1) then [.tooMany parent s.kind] else []) ++
  (g.overfull m s).map (fun c =>
    .tooManyAlternatives parent s.kind (c.kinds.filter (fun k => k != s.kind)))

def missing (m : Model) (parent : String) (g : Progress) : List Defect :=
  (m.slots.filter (fun s =>
    g.count s.kind < s.minCount && g.isDemanded s.path s.presence)).map
      (fun s => .incomplete parent [s.kind]) ++
  (m.groups.zipIdx.filter (fun c =>
    (g.alternatives c.2).isEmpty && g.isDemanded c.1.place c.1.presence)).map
      (fun c => .incomplete parent c.1.kinds)

end Progress

def contentFrom (m : Model) (parent : NodeRef) : Progress → List (Element × NodeRef) → List Finding
  | g, [] => (g.missing m parent.element).map (.ofDefect parent)
  | g, (c, r) :: cs =>
      match c.node.role m with
      | .slot s =>
          (g.slotDefects m parent.element s).map (.ofDefect r) ++ contentFrom m parent (g.take s) cs
      | .stranger name =>
          .ofDefect r (.invalidChild parent.element name (m.slots.map Slot.kind)) ::
            contentFrom m parent g cs
      | .ignored => contentFrom m parent g cs

theorem nodup_eraseDups (l : List Nat) : l.eraseDups.Nodup := by
  cases l with
  | nil => simp
  | cons a l =>
      rw [List.eraseDups_cons, List.nodup_cons]
      exact ⟨by simp [List.mem_eraseDups], nodup_eraseDups _⟩
  termination_by l.length
  decreasing_by
    have := List.length_filter_le (fun b => !b == a) l
    simp only [List.length_cons]
    omega

namespace Model

variable {m : Model} {s : Slot} {k l : Kind}

theorem number_lt_iff : m.number k < m.slots.length ↔ k ∈ m.kinds := by
  simp [number, kinds, List.findIdx_lt_length]

theorem kind_number (h : m.number k < m.slots.length) : (m.slots[m.number k]).kind = k := by
  have hfound : ((m.slots[m.number k]).kind == k) = true := List.findIdx_getElem (w := h)
  exact eq_of_beq hfound

theorem number_inj (hk : k ∈ m.kinds) (h : m.number k = m.number l) : k = l := by
  have hlt := number_lt_iff.mpr hk
  have hkind := kind_number hlt
  have hkind' := kind_number (h ▸ hlt)
  simp only [h] at hkind
  exact hkind.symm.trans hkind'

theorem mem_slots_of_role {n : Node} (h : n.role m = .slot s) : s ∈ m.slots := by
  cases n with
  | typed k i c =>
      simp only [Node.role] at h
      split at h
      · next hs =>
          obtain rfl := ChildRole.slot.inj h
          exact List.mem_of_find?_eq_some hs
      · simp at h
  | unknown name address => simp [Node.role] at h
  | comment text => simp [Node.role] at h
  | instruction text => simp [Node.role] at h
  | wrapper w => simp [Node.role] at h

end Model

namespace Tally

structure Mirrors (m : Model) (t : Tally) (g : Progress) : Prop where
  slots : t.counts.length = m.slots.length
  groups : t.taken.length = m.groups.length
  count : ∀ k ∈ m.kinds, t.count m k = g.count k
  distinct : ∀ i, (t.alternatives i).Nodup
  taken : ∀ i a, i < m.groups.length → (a ∈ t.alternatives i ↔ a ∈ g.alternatives i)
  matched : t.matched = g.seen.map Slot.path
  last : t.last = g.last

variable {m : Model} {t : Tally} {g : Progress} {s : Slot} {k : Kind}

theorem mirrors_start (m : Model) : (start m).Mirrors m .start where
  slots := by simp [start]
  groups := by simp [start]
  count k hk := by
    have hlt := Model.number_lt_iff.mpr hk
    simp [start, count, Progress.count, Progress.start, List.getD_eq_getElem?_getD, hlt]
  distinct i := by
    by_cases hi : i < m.groups.length <;>
      simp [start, alternatives, List.getD_eq_getElem?_getD, hi]
  taken i a hi := by
    simp [start, alternatives, Progress.alternatives, Progress.start, List.getD_eq_getElem?_getD,
      hi]
  matched := rfl
  last := rfl

theorem count_take (hs : s ∈ m.slots) (h : t.counts.length = m.slots.length) (hk : k ∈ m.kinds) :
    (t.take m s).count m k = t.count m k + if s.kind = k then 1 else 0 := by
  have hlt : m.number k < t.counts.length := h ▸ Model.number_lt_iff.mpr hk
  rw [count, take, List.getD_eq_getElem?_getD, List.getElem?_modify, count,
    List.getD_eq_getElem?_getD, List.getElem?_eq_getElem hlt]
  by_cases he : s.kind = k
  · simp [he]
  · have hne : m.number s.kind ≠ m.number k := by
      intro hn
      exact he (Model.number_inj (List.mem_map_of_mem hs) hn)
    simp [he, hne]

theorem alternatives_take (t : Tally) (s : Slot) (i : Nat) (hi : i < t.taken.length) :
    (t.take m s).alternatives i =
      match s.choices.lookup i with
      | some a => (t.alternatives i).insert a
      | none => t.alternatives i := by
  cases hs : s.choices.lookup i <;>
    simp [alternatives, take, List.getElem?_eq_getElem hi, hs]

theorem Mirrors.isOutOfSequence (h : t.Mirrors m g) (s : Slot) :
    t.isOutOfSequence s = g.isOutOfSequence s := by
  cases hlast : g.last <;>
    simp [Tally.isOutOfSequence, Progress.isOutOfSequence, h.last, hlast]

theorem Mirrors.take (h : t.Mirrors m g) (hs : s ∈ m.slots) :
    (t.take m s).Mirrors m (g.take s) where
  slots := by simp [Tally.take, h.slots]
  groups := by simp [Tally.take, h.groups]
  count k hk := by
    rw [count_take hs h.slots hk, h.count k hk, Progress.count, Progress.count, Progress.take,
      List.countP_cons]
    simp
  distinct i := by
    by_cases hi : i < t.taken.length
    · rw [alternatives_take t s i hi]
      cases s.choices.lookup i with
      | none => exact h.distinct i
      | some a => exact (h.distinct i).insert
    · simp [Tally.alternatives, Tally.take, hi]
  taken i a hi := by
    rw [alternatives_take t s i (h.groups ▸ hi), Progress.alternatives, Progress.take,
      List.mem_eraseDups, List.filterMap_cons]
    cases s.choices.lookup i with
    | none => simpa [Progress.alternatives] using h.taken i a hi
    | some b => simpa [Progress.alternatives] using or_congr_right (h.taken i a hi)
  matched := by simp [Tally.take, Progress.take, h.matched]
  last := by
    simp only [Tally.take, Progress.take, h.isOutOfSequence s, h.last]

theorem Mirrors.perm (h : t.Mirrors m g) {i : Nat} (hi : i < m.groups.length) :
    (t.alternatives i).Perm (g.alternatives i) :=
  (List.perm_ext_iff_of_nodup (h.distinct i) (nodup_eraseDups _)).mpr fun a => h.taken i a hi

theorem Mirrors.isDemanded (h : t.Mirrors m g) (p : Path) (presence : Presence) :
    t.isDemanded p presence = g.isDemanded p presence := by
  cases presence with
  | optional => rfl
  | required => rfl
  | within steps =>
      rw [Tally.isDemanded, Progress.isDemanded, Progress.reaches, h.matched, List.any_map]
      rfl

theorem Mirrors.overfull (h : t.Mirrors m g) (s : Slot) : t.overfull m s = g.overfull m s := by
  rw [Tally.overfull, Progress.overfull]
  apply List.filterMap_congr
  intro c _
  cases hc : m.groups[c.1]? with
  | none => rfl
  | some group =>
      have hperm := h.perm (List.getElem?_eq_some_iff.mp hc).1
      simp only [hperm.length_eq, hperm.contains_eq]

theorem Mirrors.slotDefects (h : t.Mirrors m g) (hs : s ∈ m.slots) (parent : String) :
    t.slotDefects m parent s = g.slotDefects m parent s := by
  rw [Tally.slotDefects, Progress.slotDefects, h.isOutOfSequence, h.overfull,
    h.count _ (List.mem_map_of_mem hs)]

theorem Mirrors.missing (h : t.Mirrors m g) (parent : String) :
    t.missing m parent = g.missing m parent := by
  rw [Tally.missing, Progress.missing]
  congr 2
  · apply List.filter_congr
    intro s hs
    rw [h.count _ (List.mem_map_of_mem hs), h.isDemanded]
  · apply List.filter_congr
    rintro ⟨f, i⟩ hf
    have hi : i < m.groups.length := by simpa using (List.mem_zipIdx hf).2.1
    rw [(h.perm hi).isEmpty_eq, h.isDemanded]

/-- The counters say no more and no less of the children so far than the slots that these fill. -/
theorem Mirrors.findings (h : t.Mirrors m g) (parent : NodeRef) (cs : List (Element × NodeRef)) :
    tallyFindings m parent t cs = contentFrom m parent g cs := by
  induction cs generalizing t g with
  | nil => rw [tallyFindings, contentFrom, h.missing]
  | cons c cs ih =>
      obtain ⟨c, r⟩ := c
      rw [tallyFindings, contentFrom]
      cases hr : c.node.role m with
      | slot s =>
          have hs := Model.mem_slots_of_role hr
          simp only [h.slotDefects hs, ih (h.take hs)]
      | stranger name => simp only [ih h]
      | ignored => exact ih h

end Tally

theorem contentFindings_eq_contentFrom (m : Model) (parent : NodeRef) (children : List Element) :
    contentFindings m parent children =
      contentFrom m parent .start (children.zip (parent.children children)) :=
  (Tally.mirrors_start m).findings parent _

end OfficeSchema
