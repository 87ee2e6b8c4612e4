import Mathlib.Data.List.Chain
import Mathlib.Data.List.Nodup
import OfficeSchema.Proofs.Content.Progress
import OfficeSchema.Proofs.Particle.Places

/-!
The verdict on content. The check reads the children one by one; that it finds nothing is said here
once and for all of the slots that the children fill, in document order.
-/

namespace OfficeSchema

def Node.isUnknown : Node → Bool
  | .unknown _ _ => true
  | _ => false

theorem length_eraseDups_cons (a : Nat) (l : List Nat) :
    (a :: l).eraseDups.length = if a ∈ l then l.eraseDups.length else l.eraseDups.length + 1 := by
  split
  · next h =>
      apply List.Perm.length_eq
      rw [List.perm_ext_iff_of_nodup (nodup_eraseDups _) (nodup_eraseDups _)]
      intro b
      rw [List.mem_eraseDups, List.mem_eraseDups, List.mem_cons]
      constructor
      · rintro (rfl | hb)
        · exact h
        · exact hb
      · exact .inr
  · next h =>
      have hl : l.filter (fun b => !b == a) = l := by
        rw [List.filter_eq_self]
        intro b hb
        have : b ≠ a := fun he => h (he ▸ hb)
        simpa using this
      rw [List.eraseDups_cons, hl, List.length_cons]

theorem Occurs.isExceeded_mono {o : Occurs} {a b : Nat} (hab : a ≤ b)
    (h : o.isExceeded b = false) : o.isExceeded a = false := by
  obtain ⟨min, max⟩ := o
  cases max with
  | none => rfl
  | some m =>
      simp only [isExceeded, decide_eq_false_iff_not, Nat.not_lt] at h ⊢
      exact Nat.le_trans hab h

namespace Progress

def after (F : List Slot) : Progress := ⟨F.reverse, F.getLast?⟩

variable {F : List Slot} {s : Slot}

theorem count_after (F : List Slot) (k : Kind) :
    (after F).count k = F.countP (fun s => s.kind == k) := by
  simp [count, after]

theorem alternatives_concat (F : List Slot) (s : Slot) (g : Nat) :
    (after (F ++ [s])).alternatives g =
      ((s.choices.lookup g).toList ++
        F.reverse.filterMap (fun s => s.choices.lookup g)).eraseDups := by
  rw [alternatives, after, List.reverse_append, List.reverse_singleton, List.singleton_append,
    List.filterMap_cons]
  cases s.choices.lookup g <;> rfl

theorem mem_alternatives {g a : Nat} :
    a ∈ (after F).alternatives g ↔ ∃ s ∈ F, s.choices.lookup g = some a := by
  simp [alternatives, after, List.mem_eraseDups, List.mem_filterMap]

theorem length_alternatives_concat (F : List Slot) (s : Slot) (g : Nat) :
    ((after (F ++ [s])).alternatives g).length =
      match s.choices.lookup g with
      | none => ((after F).alternatives g).length
      | some a =>
          if a ∈ (after F).alternatives g then ((after F).alternatives g).length
          else ((after F).alternatives g).length + 1 := by
  rw [alternatives_concat]
  cases s.choices.lookup g with
  | none => rfl
  | some a =>
      simp only [Option.toList_some, List.singleton_append, length_eraseDups_cons, alternatives,
        after, List.mem_eraseDups]

theorem length_alternatives_le (F : List Slot) (s : Slot) (g : Nat) :
    ((after F).alternatives g).length ≤ ((after (F ++ [s])).alternatives g).length := by
  rw [length_alternatives_concat]
  cases s.choices.lookup g with
  | none => exact Nat.le_refl _
  | some a =>
      dsimp only
      split
      · exact Nat.le_refl _
      · exact Nat.le_succ _

theorem take_after (h : (after F).isOutOfSequence s = false) :
    (after F).take s = after (F ++ [s]) := by
  rw [take, h]
  simp [after]

theorem isOutOfSequence_after :
    (after F).isOutOfSequence s = false ↔ ∀ b ∈ F.getLast?, s.precedes b = false := by
  rw [isOutOfSequence, after]
  cases F.getLast? <;> simp

end Progress

namespace Model

open Progress

/-- What the check relies on: a kind has one slot, and the choices of a slot are in order. -/
structure Regular (m : Model) : Prop where
  nodup : m.kinds.Nodup
  ordered : ∀ s ∈ m.slots, s.choices.Pairwise (fun a b => a.1 < b.1)

structure Orderly (m : Model) (F : List Slot) : Prop where
  ordered : F.IsChain (fun a b => b.precedes a = false)
  bounded : ∀ s ∈ F, s.total.isExceeded (F.countP (fun t => t.kind == s.kind)) = false
  single : ∀ g (f : ChoiceGroup), m.groups[g]? = some f →
    f.total.isExceeded ((after F).alternatives g).length = false

structure Filled (m : Model) (F : List Slot) : Prop where
  slots : ∀ s ∈ m.slots, F.countP (fun t => t.kind == s.kind) < s.minCount →
    (after F).isDemanded s.path s.presence = false
  groups : ∀ g (f : ChoiceGroup), m.groups[g]? = some f → (after F).alternatives g = [] →
    (after F).isDemanded f.place f.presence = false

variable {m : Model} {F : List Slot} {s : Slot}

theorem eq_of_kind_eq (hm : m.Regular) {s t : Slot} (hs : s ∈ m.slots) (ht : t ∈ m.slots)
    (h : s.kind = t.kind) : s = t :=
  List.inj_on_of_nodup_map hm.nodup hs ht h

theorem overfull_eq_nil_iff (hm : m.Regular) (hs : s ∈ m.slots) :
    (after F).overfull m s = [] ↔ ∀ g (f : ChoiceGroup) a, m.groups[g]? = some f →
      s.choices.lookup g = some a → a ∉ (after F).alternatives g →
        f.total.isExceeded (((after F).alternatives g).length + 1) = false := by
  simp only [overfull, List.filterMap_eq_nil_iff]
  constructor
  · intro h g f a hf ha hnot
    have hmem := (lookup_eq_some_iff (hm.ordered s hs) g a).mp ha
    have := h (g, a) hmem
    simpa [hf, hnot] using this
  · rintro h ⟨g, a⟩ hmem
    have ha := (lookup_eq_some_iff (hm.ordered s hs) g a).mpr hmem
    cases hf : m.groups[g]? with
    | none => simp
    | some f =>
        have := h g f a hf ha
        simpa [hf] using this

theorem slotDefects_eq_nil_iff (m : Model) (name : String) (g : Progress) (s : Slot) :
    g.slotDefects m name s = [] ↔ g.isOutOfSequence s = false ∧
      s.total.isExceeded (g.count s.kind + 1) = false ∧ g.overfull m s = [] := by
  simp [slotDefects]

theorem orderly_concat_iff (hm : m.Regular) (hF : ∀ t ∈ F ++ [s], t ∈ m.slots) (name : String) :
    m.Orderly (F ++ [s]) ↔ m.Orderly F ∧ (after F).slotDefects m name s = [] := by
  have hs : s ∈ m.slots := hF s (by simp)
  rw [slotDefects_eq_nil_iff, isOutOfSequence_after, overfull_eq_nil_iff hm hs, count_after]
  constructor
  · rintro ⟨hord, hbound, hsingle⟩
    obtain ⟨hordF, -, hlast⟩ := List.isChain_append.mp hord
    refine ⟨⟨hordF, fun t ht => ?_, fun g f hf => ?_⟩, ?_, ?_, ?_⟩
    · refine Occurs.isExceeded_mono ?_ (hbound t (by simp [ht]))
      simp
    · exact Occurs.isExceeded_mono (length_alternatives_le F s g) (hsingle g f hf)
    · intro b hb
      exact hlast b hb s (by simp)
    · simpa using hbound s (by simp)
    · intro g f a hf ha hnot
      simpa only [length_alternatives_concat, ha, if_neg hnot] using hsingle g f hf
  · rintro ⟨⟨hord, hbound, hsingle⟩, hlast, hcount, hover⟩
    refine ⟨?_, fun t ht => ?_, fun g f hf => ?_⟩
    · refine List.isChain_append.mpr ⟨hord, List.isChain_singleton s, fun b hb t ht => ?_⟩
      obtain rfl : s = t := by simpa using ht
      exact hlast b hb
    · by_cases hk : s.kind = t.kind
      · obtain rfl := eq_of_kind_eq hm hs (hF t ht) hk
        simpa using hcount
      · have htF : t ∈ F := by
          rcases List.mem_append.mp ht with ht | ht
          · exact ht
          · obtain rfl : t = s := by simpa using ht
            exact absurd rfl hk
        simpa [hk] using hbound t htF
    · rw [length_alternatives_concat]
      cases ha : s.choices.lookup g with
      | none => exact hsingle g f hf
      | some a =>
          by_cases hmem : a ∈ (after F).alternatives g
          · simpa [hmem] using hsingle g f hf
          · simpa [hmem] using hover g f a hf ha hmem

theorem orderly_nil (m : Model) : m.Orderly [] := by
  refine ⟨List.isChain_nil, by simp, fun g f hf => ?_⟩
  simp [alternatives, after, Occurs.isExceeded]
  split <;> rfl

theorem orderly_of_append {F G : List Slot} (hm : m.Regular) (hFG : ∀ t ∈ F ++ G, t ∈ m.slots)
    (h : m.Orderly (F ++ G)) : m.Orderly F := by
  induction G using List.reverseRecOn with
  | nil => simpa using h
  | append_singleton G s ih =>
      rw [← List.append_assoc] at h hFG
      have hlast := (orderly_concat_iff hm hFG "").mp h
      exact ih (fun t ht => hFG t (List.mem_append_left _ ht)) hlast.1

theorem missing_eq_nil_iff (m : Model) (name : String) (F : List Slot) :
    (after F).missing m name = [] ↔ m.Filled F := by
  simp only [missing, List.append_eq_nil_iff, List.map_eq_nil_iff, List.filter_eq_nil_iff,
    Bool.and_eq_true, decide_eq_true_eq, not_and, Bool.not_eq_true, count_after,
    List.isEmpty_iff]
  constructor
  · rintro ⟨hslots, hgroups⟩
    refine ⟨hslots, fun g f hf => hgroups (f, g) ?_⟩
    exact List.mem_zipIdx_iff_getElem?.mpr hf
  · rintro ⟨hslots, hgroups⟩
    refine ⟨hslots, fun c hc => hgroups c.2 c.1 ?_⟩
    exact List.mem_zipIdx_iff_getElem?.mp hc

theorem rule_of_mem_slotDefects {g : Progress} {name : String} {d : Defect}
    (h : d ∈ g.slotDefects m name s) : d.rule = "Sch_TooManyElements" ∨
      d.rule = "Sch_UnexpectedElementContent" ∧ g.isOutOfSequence s = true := by
  simp only [slotDefects, List.mem_append, List.mem_map, List.mem_ite_nil_right,
    List.mem_singleton] at h
  rcases h with (⟨hs, rfl⟩ | ⟨-, rfl⟩) | ⟨c, -, rfl⟩
  · exact .inr ⟨rfl, hs⟩
  · exact .inl rfl
  · exact .inl rfl

theorem rule_of_mem_missing {g : Progress} {name : String} {d : Defect}
    (h : d ∈ g.missing m name) : d.rule = "Sch_IncompleteContent" := by
  rcases List.mem_append.mp h with h | h
  · obtain ⟨s, -, rfl⟩ := List.mem_map.mp h
    rfl
  · obtain ⟨c, -, rfl⟩ := List.mem_map.mp h
    rfl

def slotOf? (m : Model) (e : Element) : Option Slot := e.kind?.bind m.slot?

def filledBy (m : Model) (children : List Element) : List Slot := children.filterMap m.slotOf?

def IsStranger (m : Model) (e : Element) : Prop :=
  match e.node with
  | .typed k _ _ => k ∉ m.kinds
  | .unknown _ _ => True
  | _ => False

theorem slot?_eq_none_iff {k : Kind} : m.slot? k = none ↔ k ∉ m.kinds := by
  simp only [slot?, kinds, List.find?_eq_none, List.mem_map, beq_iff_eq, not_exists, not_and]

theorem slot?_mem {k : Kind} (h : m.slot? k = some s) : s ∈ m.slots ∧ s.kind = k := by
  refine ⟨List.mem_of_find?_eq_some h, ?_⟩
  simpa using List.find?_some h

theorem mem_slots_of_mem_filledBy {children : List Element} (hs : s ∈ m.filledBy children) :
    s ∈ m.slots := by
  obtain ⟨e, -, he⟩ := List.mem_filterMap.mp hs
  obtain ⟨k, -, hk⟩ := Option.bind_eq_some_iff.mp he
  exact (slot?_mem hk).1

theorem role_spec (m : Model) (e : Element) :
    match e.node.role m with
    | .slot s => m.slotOf? e = some s ∧ ¬m.IsStranger e
    | .stranger _ => m.slotOf? e = none ∧ m.IsStranger e
    | .ignored => m.slotOf? e = none ∧ ¬m.IsStranger e := by
  obtain ⟨node, attributes, text, children⟩ := e
  cases node with
  | typed k i c =>
      cases hk : m.slot? k with
      | none =>
          have hnot := slot?_eq_none_iff.mp hk
          simp [Node.role, slotOf?, IsStranger, Element.kind?, Node.kind?, hk, hnot]
      | some s =>
          have hmem : k ∈ m.kinds := by
            obtain ⟨hs, rfl⟩ := slot?_mem hk
            exact List.mem_map_of_mem hs
          simp [Node.role, slotOf?, IsStranger, Element.kind?, Node.kind?, hk, hmem]
  | unknown name address => simp [Node.role, slotOf?, IsStranger, Element.kind?, Node.kind?]
  | comment text => simp [Node.role, slotOf?, IsStranger, Element.kind?, Node.kind?]
  | instruction text => simp [Node.role, slotOf?, IsStranger, Element.kind?, Node.kind?]
  | wrapper w => simp [Node.role, slotOf?, IsStranger, Element.kind?, Node.kind?]

theorem contentFrom_eq_nil_iff (hm : m.Regular) (parent : NodeRef)
    (cs : List (Element × NodeRef)) (hF : ∀ s ∈ F, s ∈ m.slots) (ho : m.Orderly F) :
    contentFrom m parent (after F) cs = [] ↔ (∀ c ∈ cs, ¬m.IsStranger c.1) ∧
      m.Orderly (F ++ m.filledBy (cs.map Prod.fst)) ∧
      m.Filled (F ++ m.filledBy (cs.map Prod.fst)) := by
  induction cs generalizing F with
  | nil => simp [contentFrom, missing_eq_nil_iff, filledBy, ho]
  | cons c cs ih =>
      obtain ⟨c, r⟩ := c
      have hcs : m.filledBy (((c, r) :: cs).map Prod.fst) =
          (m.slotOf? c).toList ++ m.filledBy (cs.map Prod.fst) := by
        rw [filledBy, List.map_cons, List.filterMap_cons]
        cases m.slotOf? c <;> rfl
      have hrole := role_spec m c
      rw [hcs, List.forall_mem_cons, contentFrom]
      -- a child with a slot adds one orderly slot, any other child adds none
      cases hr : c.node.role m with
      | slot s =>
          rw [hr] at hrole
          obtain ⟨hslot, hnot⟩ := hrole
          obtain ⟨k, -, hk⟩ := Option.bind_eq_some_iff.mp hslot
          have hFs : ∀ t ∈ F ++ [s], t ∈ m.slots := by
            intro t ht
            rcases List.mem_append.mp ht with ht | ht
            · exact hF t ht
            · obtain rfl : t = s := by simpa using ht
              exact (slot?_mem hk).1
          have hstep := orderly_concat_iff hm hFs parent.element
          rw [hslot, Option.toList_some, List.append_eq_nil_iff, List.map_eq_nil_iff]
          constructor
          · rintro ⟨hd, hrest⟩
            have hs := (slotDefects_eq_nil_iff _ _ _ _).mp hd
            rw [take_after hs.1, ih hFs (hstep.mpr ⟨ho, hd⟩)] at hrest
            simpa [hnot] using hrest
          · rintro ⟨⟨-, hstr⟩, horder, hfill⟩
            have hcat : F ++ ([s] ++ m.filledBy (cs.map Prod.fst)) =
                F ++ [s] ++ m.filledBy (cs.map Prod.fst) := (List.append_assoc _ _ _).symm
            rw [hcat] at horder hfill
            have hos : m.Orderly (F ++ [s]) := by
              refine orderly_of_append hm (fun t ht => ?_) horder
              rcases List.mem_append.mp ht with ht | ht
              · exact hFs t ht
              · exact mem_slots_of_mem_filledBy ht
            have hd := (hstep.mp hos).2
            have hs := (slotDefects_eq_nil_iff _ _ _ _).mp hd
            rw [take_after hs.1]
            exact ⟨hd, (ih hFs hos).mpr ⟨hstr, horder, hfill⟩⟩
      | stranger name =>
          rw [hr] at hrole
          simp [hrole.2]
      | ignored =>
          rw [hr] at hrole
          simp [hrole.1, hrole.2, ih hF ho]

theorem contentFindings_eq_nil_iff (hm : m.Regular) (parent : NodeRef) (children : List Element) :
    contentFindings m parent children = [] ↔ (∀ c ∈ children, ¬m.IsStranger c) ∧
      m.Orderly (m.filledBy children) ∧ m.Filled (m.filledBy children) := by
  have hfst := NodeRef.map_fst_zip_children parent children
  have h := contentFrom_eq_nil_iff hm parent (children.zip (parent.children children)) (F := [])
    (by simp) (orderly_nil m)
  rw [List.nil_append, hfst] at h
  rw [contentFindings_eq_contentFrom, show Progress.start = after [] from rfl, h]
  refine and_congr_left fun _ => ?_
  rw [← List.forall_mem_map (f := Prod.fst) (P := fun c => ¬m.IsStranger c), hfst]

theorem fresh_sublist (known : List Kind) (ss : List Slot) : (fresh known ss).Sublist ss := by
  induction ss generalizing known with
  | nil => exact .slnil
  | cons s ss ih =>
      rw [fresh]
      split
      · exact (ih known).cons s
      · exact (ih _).cons_cons s

theorem nodup_fresh {known : List Kind} (hk : known.Nodup) (ss : List Slot) :
    (known ++ (fresh known ss).map Slot.kind).Nodup := by
  induction ss generalizing known with
  | nil => simpa [fresh]
  | cons s ss ih =>
      rw [fresh]
      split
      · exact ih hk
      · next hs =>
          have hks : (known ++ [s.kind]).Nodup := by
            rw [List.nodup_append]
            refine ⟨hk, by simp, fun a ha b hb => ?_⟩
            obtain rfl : b = s.kind := by simpa using hb
            exact fun he => hs (he ▸ ha)
          simpa using ih hks

theorem regular_ofParticle (v : Version) (p : Particle) : (ofParticle v p).Regular := by
  constructor
  · have h := nodup_fresh .nil (outline v p .root 0).slots
    rwa [List.nil_append, ← ofParticle_slots] at h
  · intro s hs
    rw [ofParticle_slots] at hs
    obtain ⟨own, hc, ho⟩ := choices_outline ((fresh_sublist _ _).subset hs)
    obtain rfl : s.choices = own := by simpa [Route.root] using hc
    exact ho.ordered

theorem ofParticle_slots_of_nodup {v : Version} {p : Particle} (h : (p.offeredKinds v).Nodup) :
    (ofParticle v p).slots = (outline v p .root 0).slots := by
  rw [ofParticle_slots, fresh_eq_self]
  have hk := kinds_outline v p .root 0
  rw [List.nil_append]
  rwa [← hk] at h

end Model

end OfficeSchema
