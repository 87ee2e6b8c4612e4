import OfficeSchema.Proofs.Content.Verdict
import OfficeSchema.Proofs.Lists

/-!
Likeness of models. The check of content sees the paths of a model only in comparison: how many
steps two of them share, and which of them is ahead where they part. Models that agree on this, and
on all that does not speak of places, give the same findings.
-/

namespace OfficeSchema

namespace Path

def ahead : Path → Path → Bool
  | a :: p, b :: q => if a = b then ahead p q else a.position < b.position
  | _, _ => false

theorem ahead_eq (p q : Path) :
    ahead q p = match divergence? p q with
      | none => false
      | some n =>
          match p[n]?, q[n]? with
          | some a, some b => decide (b.position < a.position)
          | _, _ => false := by
  induction p generalizing q with
  | nil => cases q <;> simp [ahead, divergence?, shared]
  | cons a p ih =>
      cases q with
      | nil => simp [ahead, divergence?, shared]
      | cons b q =>
          by_cases hab : a = b
          · subst hab
            rw [divergence?_cons, ahead, if_pos rfl, ih]
            cases divergence? p q <;> rfl
          · simp [ahead, divergence?, shared, hab, Ne.symm hab]

end Path

theorem Slot.precedes_eq (next previous : Slot) :
    next.precedes previous = (next.path.ahead previous.path &&
      !(previous.repeatable.take (Path.shared previous.path next.path + 1)).any id) := by
  rw [precedes, Path.ahead_eq]
  cases h : Path.divergence? previous.path next.path with
  | none => rfl
  | some n =>
      obtain ⟨-, rfl⟩ := Path.divergence?_eq_some_iff.mp h
      dsimp only
      cases previous.path[Path.shared previous.path next.path]? <;>
        cases next.path[Path.shared previous.path next.path]? <;> rfl

def Slot.unplaced (s : Slot) : Slot :=
  { s with path := [], choices := s.choices.map (fun c => (c.1, 0)) }

def ChoiceGroup.unplaced (f : ChoiceGroup) : ChoiceGroup := { f with place := [] }

theorem Slot.of_unplaced_eq {s t : Slot} (h : s.unplaced = t.unplaced) :
    s.kind = t.kind ∧ s.total = t.total ∧ s.minCount = t.minCount ∧ s.presence = t.presence ∧
      s.repeatable = t.repeatable := by
  simp only [unplaced, Slot.mk.injEq] at h
  obtain ⟨hkind, -, -, htotal, hmin, hpresence, hrepeatable, -⟩ := h
  exact ⟨hkind, htotal, hmin, hpresence, hrepeatable⟩

theorem ChoiceGroup.of_unplaced_eq {f g : ChoiceGroup} (h : f.unplaced = g.unplaced) :
    f.total = g.total ∧ f.presence = g.presence ∧ f.kinds = g.kinds := by
  simpa [unplaced] using h

theorem isSome_lookup_unplaced (s : Slot) (g : Nat) :
    (s.unplaced.choices.lookup g).isSome = (s.choices.lookup g).isSome := by
  have h (cs : List (Nat × Nat)) :
      ((cs.map (fun c => (c.1, 0))).lookup g).isSome = (cs.lookup g).isSome := by
    induction cs with
    | nil => rfl
    | cons c cs ih =>
        obtain ⟨c, a⟩ := c
        rw [List.map_cons, List.lookup_cons, List.lookup_cons]
        cases g == c
        · exact ih
        · rfl
  exact h s.choices

namespace Model

structure ChoicesAlike (R : Slot → Slot → Prop) (f f' : ChoiceGroup) : Prop where
  unplaced : f.unplaced = f'.unplaced
  shared : ∀ s s', R s s' → Path.shared s.path f.place = Path.shared s'.path f'.place

structure Alike (R : Slot → Slot → Prop) (m m' : Model) : Prop where
  slots : List.Forall₂ R m.slots m'.slots
  groups : List.Forall₂ (ChoicesAlike R) m.groups m'.groups
  unplaced : ∀ s s', R s s' → s.unplaced = s'.unplaced
  ordered : ∀ s s', R s s' → s.choices.Pairwise (fun a b => a.1 < b.1) ∧
    s'.choices.Pairwise (fun a b => a.1 < b.1)
  shared : ∀ s s' t t', R s s' → R t t' → Path.shared s.path t.path = Path.shared s'.path t'.path
  ahead : ∀ s s' t t', R s s' → R t t' → s.path.ahead t.path = s'.path.ahead t'.path
  lookup : ∀ s s' t t', R s s' → R t t' → ∀ g,
    s.choices.lookup g = t.choices.lookup g ↔ s'.choices.lookup g = t'.choices.lookup g

structure ProgressAlike (R : Slot → Slot → Prop) (g g' : Progress) : Prop where
  seen : List.Forall₂ R g.seen g'.seen
  last : Option.Rel R g.last g'.last

namespace Alike

variable {R : Slot → Slot → Prop} {m m' : Model} {g g' : Progress} {s s' t t' : Slot}

theorem kind_eq (h : Alike R m m') (hs : R s s') : s.kind = s'.kind :=
  (Slot.of_unplaced_eq (h.unplaced s s' hs)).1

theorem precedes_eq (h : Alike R m m') (hs : R s s') (ht : R t t') :
    s.precedes t = s'.precedes t' := by
  obtain ⟨-, -, -, -, hrep⟩ := Slot.of_unplaced_eq (h.unplaced t t' ht)
  rw [Slot.precedes_eq, Slot.precedes_eq, h.ahead s s' t t' hs ht, h.shared t t' s s' ht hs, hrep]

theorem slot?_eq (h : Alike R m m') (k : Kind) : m.slot? k = none ∧ m'.slot? k = none ∨
    ∃ s s', m.slot? k = some s ∧ m'.slot? k = some s' ∧ R s s' :=
  find?_of_forall₂ h.slots fun a b hab => by rw [h.kind_eq hab]

theorem kinds_eq (h : Alike R m m') : m.slots.map Slot.kind = m'.slots.map Slot.kind := by
  have hall := map_filter_eq_of_forall₂ h.slots (P := fun _ => true) (Q := fun _ => true)
    (fun _ _ _ => rfl) fun a b hab => h.kind_eq hab
  simpa using hall

theorem isOutOfSequence_eq (h : Alike R m m') (hg : ProgressAlike R g g') (hs : R s s') :
    g.isOutOfSequence s = g'.isOutOfSequence s' := by
  obtain ⟨seen, last⟩ := g
  obtain ⟨seen', last'⟩ := g'
  cases hg.last with
  | none => rfl
  | some ht => exact h.precedes_eq hs ht

theorem take_alike (h : Alike R m m') (hg : ProgressAlike R g g') (hs : R s s') :
    ProgressAlike R (g.take s) (g'.take s') := by
  refine ⟨.cons hs hg.seen, ?_⟩
  simp only [Progress.take, h.isOutOfSequence_eq hg hs]
  split
  · exact hg.last
  · exact .some hs

theorem count_eq (h : Alike R m m') (hg : ProgressAlike R g g') (k : Kind) :
    g.count k = g'.count k := by
  rw [Progress.count, Progress.count, List.countP_eq_length_filter, List.countP_eq_length_filter]
  have hmap := map_filter_eq_of_forall₂ hg.seen (P := fun s => s.kind == k)
    (Q := fun s => s.kind == k) (f := Slot.kind) (g := Slot.kind)
    (fun a b hab => by rw [h.kind_eq hab]) fun a b hab => h.kind_eq hab
  simpa using congrArg List.length hmap

theorem isDemanded_eq (hg : ProgressAlike R g g') {path path' : Path} {presence : Presence}
    (hp : ∀ s s', R s s' → Path.shared s.path path = Path.shared s'.path path') :
    g.isDemanded path presence = g'.isDemanded path' presence := by
  cases presence with
  | optional => rfl
  | required => rfl
  | within n =>
      rw [Progress.isDemanded, Progress.isDemanded, Progress.reaches, Progress.reaches,
        Bool.eq_iff_iff, List.any_eq_true, List.any_eq_true]
      refine exists_mem_iff_of_forall₂ hg.seen fun a b hab => ?_
      rw [Path.sharesPrefix_eq, Path.sharesPrefix_eq, hp a b hab]

theorem mem_alternatives_iff (h : Alike R m m') (hg : ProgressAlike R g g') (hs : R s s')
    {n a a' : Nat} (ha : s.choices.lookup n = some a) (ha' : s'.choices.lookup n = some a') :
    a ∈ g.alternatives n ↔ a' ∈ g'.alternatives n := by
  rw [Progress.alternatives, Progress.alternatives, List.mem_eraseDups, List.mem_eraseDups,
    List.mem_filterMap, List.mem_filterMap, ← ha, ← ha']
  exact exists_mem_iff_of_forall₂ hg.seen fun t t' ht => h.lookup t t' s s' ht hs n

theorem isSome_lookup_eq (h : Alike R m m') (hs : R s s') (n : Nat) :
    (s.choices.lookup n).isSome = (s'.choices.lookup n).isSome := by
  rw [← isSome_lookup_unplaced s, ← isSome_lookup_unplaced s', h.unplaced s s' hs]

theorem length_alternatives_eq (h : Alike R m m') (hg : ProgressAlike R g g') (n : Nat) :
    (g.alternatives n).length = (g'.alternatives n).length := by
  obtain ⟨seen, last⟩ := g
  obtain ⟨seen', last'⟩ := g'
  obtain ⟨hseen, -⟩ := hg
  simp only at hseen
  induction hseen with
  | nil => rfl
  | @cons s s' seen seen' hs hseen ih =>
      have hsome := h.isSome_lookup_eq hs n
      simp only [Progress.alternatives, List.filterMap_cons] at ih ⊢
      cases ha : s.choices.lookup n with
      | none =>
          cases ha' : s'.choices.lookup n with
          | none => exact ih
          | some a' => simp [ha, ha'] at hsome
      | some a =>
          cases ha' : s'.choices.lookup n with
          | none => simp [ha, ha'] at hsome
          | some a' =>
              have halike : ProgressAlike R ⟨seen, none⟩ ⟨seen', none⟩ := ⟨hseen, .none⟩
              have hmem := h.mem_alternatives_iff halike hs ha ha'
              simp only [Progress.alternatives, List.mem_eraseDups] at hmem
              simp only [length_eraseDups_cons, hmem, ih]

theorem overfull_eq (h : Alike R m m') (hg : ProgressAlike R g g') (hs : R s s') :
    (g.overfull m s).map ChoiceGroup.unplaced = (g'.overfull m' s').map ChoiceGroup.unplaced := by
  rw [Progress.overfull, Progress.overfull, List.map_filterMap, List.map_filterMap]
  have hkeys : s.unplaced.choices = s'.unplaced.choices :=
    congrArg Slot.choices (h.unplaced s s' hs)
  obtain ⟨hord, hord'⟩ := h.ordered s s' hs
  refine filterMap_eq_of_keys hkeys ?_
  rintro ⟨n, a⟩ ha ⟨n', a'⟩ ha' rfl
  have hmem := h.mem_alternatives_iff hg hs ((lookup_eq_some_iff hord n a).mpr ha)
    ((lookup_eq_some_iff hord' n a').mpr ha')
  have hlen := h.length_alternatives_eq hg n
  have hcontains : (g.alternatives n).contains a = (g'.alternatives n).contains a' := by
    rw [Bool.eq_iff_iff, List.contains_iff_mem, List.contains_iff_mem, hmem]
  rcases getElem?_of_forall₂ h.groups n with ⟨hn, hn'⟩ | ⟨f, f', hf, hf', hff⟩
  · simp [hn, hn']
  · obtain ⟨htotal, -, -⟩ := ChoiceGroup.of_unplaced_eq hff.unplaced
    simp only [hf, hf', hcontains, hlen, htotal]
    split
    · simp [hff.unplaced]
    · rfl

theorem slotDefects_eq (h : Alike R m m') (hg : ProgressAlike R g g') (hs : R s s')
    (parent : String) : g.slotDefects m parent s = g'.slotDefects m' parent s' := by
  obtain ⟨hkind, htotal, -⟩ := Slot.of_unplaced_eq (h.unplaced s s' hs)
  have hover := congrArg (List.map fun c : ChoiceGroup => Defect.tooManyAlternatives parent s.kind
    (c.kinds.filter (fun k => k != s.kind))) (h.overfull_eq hg hs)
  rw [List.map_map, List.map_map] at hover
  rw [Progress.slotDefects, Progress.slotDefects, h.isOutOfSequence_eq hg hs, h.count_eq hg, htotal,
    ← hkind]
  exact congrArg _ hover

theorem missing_eq (h : Alike R m m') (hg : ProgressAlike R g g') (parent : String) :
    g.missing m parent = g'.missing m' parent := by
  rw [Progress.missing, Progress.missing]
  congr 1
  · refine map_filter_eq_of_forall₂ h.slots (fun s s' hs => ?_) fun s s' hs => by
      rw [h.kind_eq hs]
    obtain ⟨hkind, -, hmin, hpresence, -⟩ := Slot.of_unplaced_eq (h.unplaced s s' hs)
    have hdemanded : g.isDemanded s.path s.presence = g'.isDemanded s'.path s.presence :=
      isDemanded_eq hg fun t t' ht => h.shared t t' s s' ht hs
    rw [h.count_eq hg, hkind, hdemanded, hmin, hpresence]
  · refine map_filter_eq_of_forall₂ (forall₂_zipIdx h.groups 0) (fun c c' hc => ?_)
      fun c c' hc => ?_
    · obtain ⟨hc, hn⟩ := hc
      obtain ⟨-, hpresence, -⟩ := ChoiceGroup.of_unplaced_eq hc.unplaced
      have hdemanded : g.isDemanded c.1.place c.1.presence =
          g'.isDemanded c'.1.place c.1.presence := isDemanded_eq hg hc.shared
      have hlen := h.length_alternatives_eq hg c.2
      rw [hdemanded, hpresence, ← hn, Bool.eq_iff_iff]
      simp only [Bool.and_eq_true, List.isEmpty_iff_length_eq_zero, hlen]
    · rw [(ChoiceGroup.of_unplaced_eq hc.1.unplaced).2.2]

theorem contentFrom_eq (h : Alike R m m') (hg : ProgressAlike R g g') (parent : NodeRef)
    (cs : List (Element × NodeRef)) :
    contentFrom m parent g cs = contentFrom m' parent g' cs := by
  induction cs generalizing g g' with
  | nil => rw [contentFrom, contentFrom, h.missing_eq hg]
  | cons c cs ih =>
      obtain ⟨⟨node, attributes, text, children⟩, r⟩ := c
      rw [contentFrom, contentFrom]
      cases node with
      | typed k i cap =>
          rcases h.slot?_eq k with ⟨hk, hk'⟩ | ⟨s, s', hk, hk', hs⟩
          · simp only [Node.role, hk, hk', h.kinds_eq, ih hg]
          · simp only [Node.role, hk, hk', h.slotDefects_eq hg hs, ih (h.take_alike hg hs)]
      | unknown name address => simp only [Node.role, h.kinds_eq, ih hg]
      | comment text => exact ih hg
      | instruction text => exact ih hg
      | wrapper w => exact ih hg

theorem contentFindings_eq (h : Alike R m m') (parent : NodeRef) (children : List Element) :
    contentFindings m parent children = contentFindings m' parent children := by
  rw [contentFindings_eq_contentFrom, contentFindings_eq_contentFrom]
  exact h.contentFrom_eq ⟨.nil, .none⟩ parent _

end Alike

end Model

end OfficeSchema
