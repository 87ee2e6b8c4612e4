import Mathlib.Data.Finset.Card
import OfficeSchema.Proofs.Content.Course
import OfficeSchema.Proofs.Lists

namespace OfficeSchema

def Occurs.excess (o : Occurs) (n : Nat) : Nat :=
  match o.max with
  | none => 0
  | some max => n - max

theorem Occurs.excess_zero (o : Occurs) : o.excess 0 = 0 := by
  unfold excess
  cases o.max <;> simp

theorem Occurs.excess_succ (o : Occurs) (n : Nat) :
    o.excess (n + 1) = o.excess n + if o.isExceeded (n + 1) then 1 else 0 := by
  unfold excess isExceeded
  cases o.max with
  | none => rfl
  | some max =>
      simp only [decide_eq_true_eq]
      split <;> omega

namespace Model

variable {m : Model} {parent : NodeRef} {g : Progress} {cs : List (Element × NodeRef)}
  {children : List Element} {s : Slot}

/-- How far the slots and the choices are filled beyond their maxima. -/
def surplus (m : Model) (g : Progress) : Nat :=
  (m.slots.map (fun s => s.total.excess (g.count s.kind))).sum +
    (m.groups.zipIdx.map (fun c => c.1.total.excess (g.alternatives c.2).length)).sum

def overfills (g : Progress) (s : Slot) (c : ChoiceGroup × Nat) : Bool :=
  (s.choices.lookup c.2).any (fun a => !(g.alternatives c.2).contains a) &&
    c.1.total.isExceeded ((g.alternatives c.2).length + 1)

theorem count_take (g : Progress) (s : Slot) (k : Kind) :
    (g.take s).count k = g.count k + if s.kind == k then 1 else 0 := by
  rw [Progress.count, Progress.take, List.countP_cons]
  rfl

theorem length_alternatives_take (g : Progress) (s : Slot) (i : Nat) :
    ((g.take s).alternatives i).length = (g.alternatives i).length +
      if (s.choices.lookup i).any (fun a => !(g.alternatives i).contains a) then 1 else 0 := by
  rw [Progress.alternatives, Progress.take, List.filterMap_cons]
  cases ha : s.choices.lookup i with
  | none => rfl
  | some a =>
      have hmem : (g.alternatives i).contains a =
          decide (a ∈ g.seen.filterMap (fun s => s.choices.lookup i)) := by
        rw [Progress.alternatives, Bool.eq_iff_iff, List.contains_iff_mem, List.mem_eraseDups,
          decide_eq_true_eq]
      rw [Option.any_some, hmem, length_eraseDups_cons, Progress.alternatives]
      split
      · next h => simp [h]
      · next h => simp [h]

theorem countP_slots (hm : m.Regular) (hs : s ∈ m.slots) (b : Bool) :
    m.slots.countP (fun t => s.kind == t.kind && b) = if b then 1 else 0 := by
  cases b with
  | false => simp
  | true =>
      have hone : m.kinds.count s.kind = 1 :=
        List.count_eq_one_of_mem hm.nodup (List.mem_map_of_mem hs)
      rw [kinds, List.count_eq_countP, List.countP_map] at hone
      rw [if_pos rfl, ← hone]
      apply List.countP_congr
      intro t _
      rw [Bool.and_true, beq_iff_eq, Function.comp_apply, beq_iff_eq, eq_comm]

theorem slots_surplus_take (hm : m.Regular) (hs : s ∈ m.slots) (g : Progress) :
    (m.slots.map (fun t => t.total.excess ((g.take s).count t.kind))).sum =
      (m.slots.map (fun t => t.total.excess (g.count t.kind))).sum +
        if s.total.isExceeded (g.count s.kind + 1) then 1 else 0 := by
  rw [← countP_slots hm hs]
  apply sum_map_add_countP
  intro t ht
  rw [count_take]
  by_cases hk : s.kind = t.kind
  · obtain rfl := eq_of_kind_eq hm hs ht hk
    simp [Occurs.excess_succ]
  · simp [hk]

theorem groups_surplus_take (m : Model) (g : Progress) (s : Slot) :
    (m.groups.zipIdx.map (fun c => c.1.total.excess ((g.take s).alternatives c.2).length)).sum =
      (m.groups.zipIdx.map (fun c => c.1.total.excess (g.alternatives c.2).length)).sum +
        m.groups.zipIdx.countP (overfills g s) := by
  apply sum_map_add_countP
  intro c _
  rw [length_alternatives_take, overfills]
  cases (s.choices.lookup c.2).any (fun a => !(g.alternatives c.2).contains a) with
  | false => simp
  | true => simp [Occurs.excess_succ]

theorem nodup_map_fst_of_ordered {choices : List (Nat × Nat)}
    (h : choices.Pairwise (fun a b => a.1 < b.1)) : (choices.map Prod.fst).Nodup := by
  rw [List.Nodup, List.pairwise_map]
  exact h.imp fun hlt => Nat.ne_of_lt hlt

theorem length_overfull (hm : m.Regular) (hs : s ∈ m.slots) (g : Progress) :
    (g.overfull m s).length = m.groups.zipIdx.countP (overfills g s) := by
  -- a slot has one choice at most in every choice group: its choices are told by their groups
  have hord := hm.ordered s hs
  rw [Progress.overfull, List.length_filterMap_eq_countP, List.countP_eq_length_filter,
    List.countP_eq_length_filter, ← List.length_map (f := Prod.fst), ← List.length_map
    (f := Prod.snd)]
  apply List.Perm.length_eq
  rw [List.perm_ext_iff_of_nodup]
  · intro i
    simp only [List.mem_map, List.mem_filter, List.mem_zipIdx_iff_getElem?, Prod.exists,
      exists_eq_right, ← lookup_eq_some_iff hord, overfills]
    constructor
    · rintro ⟨_, a, ⟨ha, hq⟩, rfl⟩
      split at hq
      · next f hf =>
          refine ⟨f, hf, ?_⟩
          simpa [ha] using hq
      · simp at hq
    · rintro ⟨f, hf, hq⟩
      rw [Bool.and_eq_true, Option.any_eq_true] at hq
      obtain ⟨⟨a, ha, hnew⟩, hexceeded⟩ := hq
      refine ⟨i, a, ⟨ha, ?_⟩, rfl⟩
      simp only [hf, hnew, hexceeded, Bool.and_true, if_true, Option.isSome_some]
  · exact (nodup_map_fst_of_ordered hord).sublist (List.filter_sublist.map _)
  · refine List.Nodup.sublist (List.filter_sublist.map _) ?_
    rw [List.zipIdx_map_snd]
    exact List.nodup_range'

theorem length_tooMany (m : Model) (name : String) (g : Progress) (s : Slot) (r : NodeRef) :
    (underRule "Sch_TooManyElements" ((g.slotDefects m name s).map (.ofDefect r))).length =
      (if s.total.isExceeded (g.count s.kind + 1) then 1 else 0) + (g.overfull m s).length := by
  have hsequence : underRule "Sch_TooManyElements"
      ((if g.isOutOfSequence s then [Defect.unexpectedChild name s.kind] else []).map
        (.ofDefect r)) = [] := by
    split <;> simp [underRule, Finding.ofDefect, Defect.rule]
  have hcount : (underRule "Sch_TooManyElements"
      ((if s.total.isExceeded (g.count s.kind + 1) then [Defect.tooMany name s.kind] else []).map
        (.ofDefect r))).length = if s.total.isExceeded (g.count s.kind + 1) then 1 else 0 := by
    split <;> simp [underRule, Finding.ofDefect, Defect.rule]
  have hchoices : underRule "Sch_TooManyElements" (((g.overfull m s).map (fun c =>
      Defect.tooManyAlternatives name s.kind (c.kinds.filter (fun k => k != s.kind)))).map
        (.ofDefect r)) = ((g.overfull m s).map (fun c =>
      Defect.tooManyAlternatives name s.kind (c.kinds.filter (fun k => k != s.kind)))).map
        (.ofDefect r) := by
    apply underRule_eq_self
    intro f hf
    obtain ⟨d, hd, rfl⟩ := List.mem_map.mp hf
    obtain ⟨c, -, rfl⟩ := List.mem_map.mp hd
    rfl
  rw [Progress.slotDefects, List.map_append, List.map_append, underRule_append, underRule_append,
    hsequence, hchoices, List.nil_append, List.length_append, hcount, List.length_map,
    List.length_map]

theorem surplus_take (hm : m.Regular) (hs : s ∈ m.slots) (g : Progress) (name : String)
    (r : NodeRef) : m.surplus (g.take s) = m.surplus g +
      (underRule "Sch_TooManyElements" ((g.slotDefects m name s).map (.ofDefect r))).length := by
  rw [length_tooMany, length_overfull hm hs, surplus, surplus, slots_surplus_take hm hs,
    groups_surplus_take]
  omega

theorem surplus_start (m : Model) : m.surplus .start = 0 := by
  rw [surplus, sum_map_eq_zero, sum_map_eq_zero]
  · intro c _
    exact Occurs.excess_zero _
  · intro s _
    exact Occurs.excess_zero _

theorem surplus_takeAll (hm : m.Regular) (parent : NodeRef) (g : Progress)
    (cs : List (Element × NodeRef)) :
    m.surplus (g.takeAll (m.filledBy (cs.map Prod.fst))) = m.surplus g +
      (underRule "Sch_TooManyElements" (childFindings m parent g cs)).length := by
  induction cs generalizing g with
  | nil => rfl
  | cons c cs ih =>
      obtain ⟨c, r⟩ := c
      have hrole := role_spec m c
      rw [List.map_cons, filledBy_cons, childFindings]
      cases hr : c.node.role m with
      | slot s =>
          rw [hr] at hrole
          obtain ⟨k, -, hk⟩ := Option.bind_eq_some_iff.mp hrole.1
          have hstep := surplus_take hm (slot?_mem hk).1 g parent.element r
          have hcons : g.takeAll ((some s).toList ++ m.filledBy (cs.map Prod.fst)) =
              (g.take s).takeAll (m.filledBy (cs.map Prod.fst)) := rfl
          dsimp only
          rw [hrole.1, hcons, ih, hstep, underRule_append, List.length_append, Nat.add_assoc]
      | stranger name =>
          rw [hr] at hrole
          rw [hrole.1]
          simpa [underRule, Finding.ofDefect, Defect.rule] using ih g
      | ignored =>
          rw [hr] at hrole
          rw [hrole.1]
          exact ih g

def alternativesIn (m : Model) (children : List Element) (i : Nat) : Finset Nat :=
  ((m.filledBy children).filterMap (fun s => s.choices.lookup i)).toFinset

/-- How many children and alternatives are one too many. -/
def crowding (m : Model) (children : List Element) : Nat :=
  (m.slots.map (fun s =>
    s.total.excess (children.countP (fun e => e.kind? == some s.kind)))).sum +
    (m.groups.zipIdx.map (fun c => c.1.total.excess (m.alternativesIn children c.2).card)).sum

def strangers (m : Model) (children : List Element) : Nat :=
  children.countP (fun e => e.node.isUnknown) +
    (children.filterMap Element.kind?).countP (fun k => k ∉ m.kinds)

theorem countP_filledBy {k : Kind} (hk : k ∈ m.kinds) (children : List Element) :
    (m.filledBy children).countP (fun s => s.kind == k) =
      children.countP (fun e => e.kind? == some k) := by
  induction children with
  | nil => rfl
  | cons e es ih =>
      rw [filledBy_cons, List.countP_append, List.countP_cons, ih, Nat.add_comm]
      congr 1
      cases he : e.kind? with
      | none => simp [slotOf?, he]
      | some k' =>
          cases hs : m.slot? k' with
          | none =>
              have hne : k' ≠ k := fun h => slot?_eq_none_iff.mp hs (h ▸ hk)
              simp [slotOf?, he, hs, hne]
          | some s => simp [slotOf?, he, hs, (slot?_mem hs).2]

theorem length_alternatives (h : g.seen.Perm (m.filledBy children)) (i : Nat) :
    (g.alternatives i).length = (m.alternativesIn children i).card := by
  rw [Progress.alternatives, ← List.toFinset_card_of_nodup (nodup_eraseDups _)]
  congr 1
  ext a
  rw [alternativesIn, List.mem_toFinset, List.mem_toFinset, List.mem_eraseDups,
    (h.filterMap _).mem_iff]

theorem surplus_eq_crowding (h : g.seen.Perm (m.filledBy children)) :
    m.surplus g = m.crowding children := by
  rw [surplus, crowding]
  congr 2
  · apply List.map_congr_left
    intro s hs
    rw [Progress.count, h.countP_eq, countP_filledBy (List.mem_map_of_mem hs)]
  · apply List.map_congr_left
    intro c _
    rw [length_alternatives h]

theorem crowding_perm {shuffled : List Element} (h : children.Perm shuffled) :
    m.crowding shuffled = m.crowding children := by
  have hfilled : (Progress.after (m.filledBy shuffled)).seen.Perm (m.filledBy children) :=
    (List.reverse_perm _).trans (h.symm.filterMap _)
  rw [← surplus_eq_crowding hfilled, surplus_eq_crowding (List.reverse_perm _)]

theorem strangers_perm {shuffled : List Element} (h : children.Perm shuffled) :
    m.strangers shuffled = m.strangers children := by
  rw [strangers, strangers, h.countP_eq, (h.filterMap _).countP_eq]

theorem strangers_cons (m : Model) (e : Element) (es : List Element) :
    m.strangers (e :: es) = m.strangers [e] + m.strangers es := by
  have hes : e :: es = [e] ++ es := rfl
  rw [hes]
  simp only [strangers, List.countP_append, List.filterMap_append]
  omega

theorem strangers_singleton (m : Model) (e : Element) :
    m.strangers [e] = match e.node.role m with
      | .stranger _ => 1
      | _ => 0 := by
  obtain ⟨node, attributes, text, children⟩ := e
  cases node with
  | typed k i c =>
      cases hk : m.slot? k with
      | none =>
          have hnot := slot?_eq_none_iff.mp hk
          simp [strangers, Node.role, Node.isUnknown, Element.kind?, Node.kind?, hk, hnot]
      | some s =>
          have hmem : k ∈ m.kinds := by
            obtain ⟨hs, rfl⟩ := slot?_mem hk
            exact List.mem_map_of_mem hs
          simp [strangers, Node.role, Node.isUnknown, Element.kind?, Node.kind?, hk, hmem]
  | unknown name address => rfl
  | comment text => rfl
  | instruction text => rfl
  | wrapper w => rfl

theorem length_invalid (m : Model) (parent : NodeRef) (g : Progress)
    (cs : List (Element × NodeRef)) :
    (underRule "Sch_InvalidElementContent" (childFindings m parent g cs)).length =
      m.strangers (cs.map Prod.fst) := by
  induction cs generalizing g with
  | nil => rfl
  | cons c cs ih =>
      obtain ⟨c, r⟩ := c
      rw [List.map_cons, strangers_cons, strangers_singleton, childFindings]
      cases hr : c.node.role m with
      | slot s =>
          have hnil : underRule "Sch_InvalidElementContent"
              ((g.slotDefects m parent.element s).map (.ofDefect r)) = [] := by
            apply underRule_eq_nil
            intro f hf hrule
            obtain ⟨d, hd, rfl⟩ := List.mem_map.mp hf
            rcases rule_of_mem_slotDefects hd with h | ⟨h, -⟩ <;>
              simp [Finding.ofDefect, h] at hrule
          dsimp only
          rw [underRule_append, hnil, List.nil_append, ih, Nat.zero_add]
      | stranger name =>
          have hcons (fs : List Finding) : (underRule "Sch_InvalidElementContent"
              (.ofDefect r (.invalidChild parent.element name (m.slots.map Slot.kind)) ::
                fs)).length = 1 + (underRule "Sch_InvalidElementContent" fs).length := by
            simp [underRule, Finding.ofDefect, Defect.rule, Nat.add_comm]
          dsimp only
          rw [hcons, ih]
      | ignored => simpa using ih g

theorem length_tooMany_eq_crowding (hm : m.Regular) (parent : NodeRef) (children : List Element) :
    (underRule "Sch_TooManyElements" (contentFindings m parent children)).length =
      m.crowding children := by
  have hrun := surplus_takeAll hm parent .start (children.zip (parent.children children))
  rw [NodeRef.map_fst_zip_children, surplus_start, Nat.zero_add] at hrun
  rw [underRule_child (by decide), ← hrun]
  apply surplus_eq_crowding
  rw [Progress.seen_takeAll, Progress.start, List.append_nil]
  exact List.reverse_perm _

theorem length_invalid_eq_strangers (m : Model) (parent : NodeRef) (children : List Element) :
    (underRule "Sch_InvalidElementContent" (contentFindings m parent children)).length =
      m.strangers children := by
  rw [underRule_child (by decide), length_invalid, NodeRef.map_fst_zip_children]

theorem incomplete_perm {shuffled : List Element} (h : children.Perm shuffled) (m : Model)
    (parent : NodeRef) : underRule "Sch_IncompleteContent" (contentFindings m parent shuffled) =
      underRule "Sch_IncompleteContent" (contentFindings m parent children) := by
  have hfilled : (Progress.after (m.filledBy shuffled)).seen.Perm
      (Progress.after (m.filledBy children)).seen :=
    (List.reverse_perm _).trans ((h.symm.filterMap _).trans (List.reverse_perm _).symm)
  rw [underRule_incomplete, underRule_incomplete, Progress.missing_perm hfilled]

theorem length_contentFindings (m : Model) (parent : NodeRef) (children : List Element) :
    (contentFindings m parent children).length = m.strangers children +
      (underRule "Sch_UnexpectedElementContent" (contentFindings m parent children)).length +
      (underRule "Sch_TooManyElements" (contentFindings m parent children)).length +
      (underRule "Sch_IncompleteContent" (contentFindings m parent children)).length := by
  have hrules : ∀ f ∈ contentFindings m parent children,
      f.defect.rule ∈ childRules ++ ["Sch_IncompleteContent"] := by
    intro f hf
    rw [contentFindings_eq_append] at hf
    rcases List.mem_append.mp hf with hf | hf
    · exact List.mem_append_left _ (rule_mem_childRules hf)
    · rw [rule_of_mem_missingFindings hf]
      simp
  rw [length_eq_sum_underRule (by decide) hrules, ← length_invalid_eq_strangers m parent]
  simp [childRules, Nat.add_assoc]

/-- Each finding of too many is one unit of the surplus, each stranger is found once, and the order
of the children bears on nothing but the findings out of sequence. -/
theorem content_findings_counted (v : Version) (p : Particle) (parent : NodeRef)
    (children : List Element) :
    let m := ofParticle v p
    let found := contentFindings m parent children
    (underRule "Sch_TooManyElements" found).length = m.crowding children ∧
    (underRule "Sch_InvalidElementContent" found).length = m.strangers children ∧
    found.length = m.strangers children +
      (underRule "Sch_UnexpectedElementContent" found).length + m.crowding children +
      (underRule "Sch_IncompleteContent" found).length ∧
    ∀ shuffled, children.Perm shuffled →
      (underRule "Sch_TooManyElements" (contentFindings m parent shuffled)).length =
        (underRule "Sch_TooManyElements" found).length ∧
      (underRule "Sch_InvalidElementContent" (contentFindings m parent shuffled)).length =
        (underRule "Sch_InvalidElementContent" found).length ∧
      underRule "Sch_IncompleteContent" (contentFindings m parent shuffled) =
        underRule "Sch_IncompleteContent" found := by
  intro m found
  have hm : m.Regular := regular_ofParticle v p
  have hmany := length_tooMany_eq_crowding hm parent children
  have hinvalid := length_invalid_eq_strangers m parent children
  refine ⟨hmany, hinvalid, ?_, fun shuffled h => ⟨?_, ?_, incomplete_perm h m parent⟩⟩
  · rw [← hmany]
    exact length_contentFindings m parent children
  · rw [hmany, length_tooMany_eq_crowding hm, crowding_perm h]
  · rw [hinvalid, length_invalid_eq_strangers, strangers_perm h]

theorem content_findings_counted_mixed :
    let m := ofParticle .office2007 (.group .choice .once
      [.leaf ⟨⟨"a"⟩, .once, none⟩, .leaf ⟨⟨"b"⟩, ⟨0, some 2⟩, none⟩])
    let node (k : String) : Element := .ofNode (.typed ⟨k⟩ ⟨0, k⟩ .empty)
    let parent : NodeRef := ⟨[], ⟨"p", 1⟩, none⟩
    m.crowding [node "a", node "b", node "b", node "b"] = 2 ∧
      (underRule "Sch_TooManyElements" (contentFindings m parent
        [node "b", node "a", node "b", node "b"])).length = 2 := by
  intro m node parent
  have hcounted := content_findings_counted .office2007 (.group .choice .once
    [.leaf ⟨⟨"a"⟩, .once, none⟩, .leaf ⟨⟨"b"⟩, ⟨0, some 2⟩, none⟩]) parent
    [node "a", node "b", node "b", node "b"]
  have hcrowding : m.crowding [node "a", node "b", node "b", node "b"] = 2 := by decide
  have hswap : [node "a", node "b", node "b", node "b"].Perm
      [node "b", node "a", node "b", node "b"] := .swap _ _ _
  refine ⟨hcrowding, ?_⟩
  rw [(hcounted.2.2.2 _ hswap).1, hcounted.1]
  exact hcrowding

end Model

end OfficeSchema
