import OfficeSchema.Proofs.Content.Course
import OfficeSchema.Proofs.Document.References

/-!
Children out of sequence. A child is held against the last child that was in sequence, so that what
is found out of sequence leaves no trace: without it the children are in sequence.
-/

namespace OfficeSchema.Model

variable {m : Model} {parent : NodeRef} {last : Option Slot} {cs : List (Element × NodeRef)}
  {c : Element × NodeRef} {s : Slot}

/-- The children that are out of sequence after a child that was in sequence. -/
def strays (m : Model) : Option Slot → List (Element × NodeRef) → List NodeRef
  | _, [] => []
  | last, (e, r) :: cs =>
      match m.slotOf? e with
      | none => strays m last cs
      | some s =>
          if last.any s.precedes then r :: strays m last cs else strays m (some s) cs

theorem strays_cons_none (h : m.slotOf? c.1 = none) :
    m.strays last (c :: cs) = m.strays last cs := by
  rw [strays, h]

theorem strays_cons_ahead (h : m.slotOf? c.1 = some s) (hs : last.any s.precedes = true) :
    m.strays last (c :: cs) = c.2 :: m.strays last cs := by
  rw [strays, h]
  exact if_pos hs

theorem strays_cons_behind (h : m.slotOf? c.1 = some s) (hs : last.any s.precedes = false) :
    m.strays last (c :: cs) = m.strays (some s) cs := by
  rw [strays, h]
  simp [hs]

theorem isOutOfSequence_eq_any (g : Progress) (s : Slot) :
    g.isOutOfSequence s = g.last.any s.precedes := by
  rw [Progress.isOutOfSequence]
  cases g.last <;> rfl

theorem node_slotDefects (m : Model) (name : String) (g : Progress) (s : Slot) (r : NodeRef) :
    (underRule "Sch_UnexpectedElementContent"
      ((g.slotDefects m name s).map (.ofDefect r))).map Finding.node =
        if g.last.any s.precedes then [r] else [] := by
  have hcount : underRule "Sch_UnexpectedElementContent"
      ((if s.total.isExceeded (g.count s.kind + 1) then [Defect.tooMany name s.kind] else []).map
        (.ofDefect r)) = [] := by
    split <;> simp [underRule, Finding.ofDefect, Defect.rule]
  have hchoices : underRule "Sch_UnexpectedElementContent" (((g.overfull m s).map (fun c =>
      Defect.tooManyAlternatives name s.kind (c.kinds.filter (fun k => k != s.kind)))).map
        (.ofDefect r)) = [] := by
    simp [underRule, Finding.ofDefect, Defect.rule]
  rw [Progress.slotDefects, List.map_append, List.map_append, underRule_append, underRule_append,
    hcount, hchoices, List.append_nil, List.append_nil, isOutOfSequence_eq_any]
  split <;> rfl

theorem nodes_unexpected (m : Model) (parent : NodeRef) (g : Progress)
    (cs : List (Element × NodeRef)) :
    (underRule "Sch_UnexpectedElementContent" (childFindings m parent g cs)).map Finding.node =
      m.strays g.last cs := by
  induction cs generalizing g with
  | nil => rfl
  | cons c cs ih =>
      obtain ⟨e, r⟩ := c
      have hrole := role_spec m e
      rw [childFindings]
      cases hr : e.node.role m with
      | slot s =>
          rw [hr] at hrole
          dsimp only
          rw [underRule_append, List.map_append, node_slotDefects, ih, Progress.take,
            isOutOfSequence_eq_any]
          cases hs : g.last.any s.precedes with
          | true => rw [strays_cons_ahead hrole.1 hs]; rfl
          | false => rw [strays_cons_behind hrole.1 hs]; rfl
      | stranger name =>
          rw [hr] at hrole
          rw [strays_cons_none hrole.1, ← ih]
          rfl
      | ignored =>
          rw [hr] at hrole
          rw [strays_cons_none hrole.1, ← ih]

theorem strays_sublist (m : Model) (last : Option Slot) (cs : List (Element × NodeRef)) :
    (m.strays last cs).Sublist (cs.map Prod.snd) := by
  induction cs generalizing last with
  | nil => exact .slnil
  | cons c cs ih =>
      rw [List.map_cons]
      cases hc : m.slotOf? c.1 with
      | none =>
          rw [strays_cons_none hc]
          exact (ih last).cons c.2
      | some s =>
          cases hs : last.any s.precedes with
          | true =>
              rw [strays_cons_ahead hc hs]
              exact (ih last).cons_cons c.2
          | false =>
              rw [strays_cons_behind hc hs]
              exact (ih (some s)).cons c.2

theorem strays_eq_nil_iff : m.strays last cs = [] ↔
    (last.toList ++ m.filledBy (cs.map Prod.fst)).IsChain (fun a b => b.precedes a = false) := by
  induction cs generalizing last with
  | nil => cases last <;> simp [strays, filledBy]
  | cons c cs ih =>
      rw [List.map_cons, filledBy_cons]
      cases hc : m.slotOf? c.1 with
      | none => rw [strays_cons_none hc, ih]; rfl
      | some s =>
          have hchain : (last.toList ++ ((some s).toList ++ m.filledBy (cs.map Prod.fst))).IsChain
              (fun a b => b.precedes a = false) ↔ last.any s.precedes = false ∧
                (s :: m.filledBy (cs.map Prod.fst)).IsChain (fun a b => b.precedes a = false) := by
            cases last <;> simp
          rw [hchain]
          cases hs : last.any s.precedes with
          | true => simp [strays_cons_ahead hc hs]
          | false =>
              rw [strays_cons_behind hc hs, ih]
              simp

theorem strays_filter (h : (cs.map Prod.snd).Nodup) :
    m.strays last (cs.filter (fun c => c.2 ∉ m.strays last cs)) = [] := by
  induction cs generalizing last with
  | nil => rfl
  | cons c cs ih =>
      obtain ⟨hnot, hcs⟩ := List.nodup_cons.mp h
      have hnew (last : Option Slot) : c.2 ∉ m.strays last cs :=
        fun hmem => hnot ((strays_sublist m last cs).subset hmem)
      cases hc : m.slotOf? c.1 with
      | none =>
          rw [strays_cons_none hc, List.filter_cons_of_pos (by simpa using hnew last),
            strays_cons_none hc]
          exact ih hcs
      | some s =>
          cases hs : last.any s.precedes with
          | true =>
              -- the child goes, and the others are told by the rest of the strays
              have hrest : cs.filter (fun d => d.2 ∉ c.2 :: m.strays last cs) =
                  cs.filter (fun d => d.2 ∉ m.strays last cs) := by
                apply List.filter_congr
                intro d hd
                have hne : d.2 ≠ c.2 := fun he => hnot (he ▸ List.mem_map_of_mem hd)
                simp [hne]
              rw [strays_cons_ahead hc hs, List.filter_cons_of_neg (by simp), hrest]
              exact ih hcs
          | false =>
              rw [strays_cons_behind hc hs, List.filter_cons_of_pos (by simpa using hnew (some s)),
                strays_cons_behind hc hs]
              exact ih hcs

theorem first_not_mem_strays (h : (cs.map Prod.snd).Nodup)
    (hc : cs.find? (fun c => (m.slotOf? c.1).isSome) = some c) : c.2 ∉ m.strays none cs := by
  induction cs with
  | nil => simp at hc
  | cons d cs ih =>
      obtain ⟨hnot, hcs⟩ := List.nodup_cons.mp h
      rw [List.find?_cons] at hc
      cases hd : m.slotOf? d.1 with
      | none =>
          rw [strays_cons_none hd]
          exact ih hcs (by simpa [hd] using hc)
      | some s =>
          obtain rfl : d = c := by simpa [hd] using hc
          rw [strays_cons_behind hd rfl]
          exact fun hmem => hnot ((strays_sublist m _ cs).subset hmem)

def unexpected (m : Model) (parent : NodeRef) (children : List Element) : List NodeRef :=
  (underRule "Sch_UnexpectedElementContent" (contentFindings m parent children)).map Finding.node

def expected (m : Model) (parent : NodeRef) (children : List Element) : List Element :=
  ((children.zip (parent.children children)).filter
    (fun c => c.2 ∉ m.unexpected parent children)).map Prod.fst

theorem unexpected_eq (m : Model) (parent : NodeRef) (children : List Element) :
    m.unexpected parent children =
      m.strays none (children.zip (parent.children children)) := by
  rw [unexpected, underRule_child (by decide), nodes_unexpected]
  rfl

theorem unexpected_sublist (m : Model) (parent : NodeRef) (children : List Element) :
    (m.unexpected parent children).Sublist (parent.children children) := by
  have hsub := strays_sublist m none (children.zip (parent.children children))
  rwa [← unexpected_eq, NodeRef.map_snd_zip_children] at hsub

theorem unexpected_expected (m : Model) (parent : NodeRef) (children : List Element) :
    m.unexpected parent (m.expected parent children) = [] := by
  have hkept : m.strays none ((children.zip (parent.children children)).filter
      (fun c => c.2 ∉ m.strays none (children.zip (parent.children children)))) = [] :=
    strays_filter (NodeRef.nodup_zip_children parent children)
  rw [strays_eq_nil_iff, ← unexpected_eq] at hkept
  rw [unexpected_eq, strays_eq_nil_iff, NodeRef.map_fst_zip_children]
  exact hkept

theorem length_expected (m : Model) (parent : NodeRef) (children : List Element) :
    (m.expected parent children).length + (m.unexpected parent children).length =
      children.length := by
  have hkept : (m.expected parent children).length =
      (parent.children children).countP (fun r => !decide (r ∈ m.unexpected parent children)) := by
    rw [expected, List.length_map, ← List.countP_eq_length_filter]
    conv_rhs => rw [← NodeRef.map_snd_zip_children, List.countP_map]
    simp only [decide_not]
    rfl
  have hgone : (parent.children children).countP (· ∈ m.unexpected parent children) =
      (m.unexpected parent children).length :=
    countP_mem_of_sublist (NodeRef.nodup_children parent children)
      (unexpected_sublist m parent children)
  rw [hkept, ← hgone, Nat.add_comm, ← NodeRef.length_children parent children]
  simpa using (List.length_eq_countP_add_countP (· ∈ m.unexpected parent children)).symm

theorem slotOf?_isSome (m : Model) (e : Element) :
    (m.slotOf? e).isSome = e.kind?.any m.contains := by
  rw [slotOf?]
  cases e.kind? with
  | none => rfl
  | some k =>
      rw [Bool.eq_iff_iff]
      simp [slot?, contains]

/-- The children found out of sequence are children, each found once, and never the first one of a
kind that the model offers. Once they are taken away, no child is found out of sequence. -/
theorem content_in_sequence_without_unexpected (m : Model) (parent : NodeRef)
    (children : List Element) :
    m.unexpected parent (m.expected parent children) = [] ∧
    (m.expected parent children).length + (m.unexpected parent children).length =
      children.length ∧
    (m.unexpected parent children).Sublist (parent.children children) ∧
    (m.unexpected parent children).Nodup ∧
    ∀ c, (children.zip (parent.children children)).find? (fun c => c.1.kind?.any m.contains) =
      some c → c.2 ∉ m.unexpected parent children := by
  have hsub := unexpected_sublist m parent children
  refine ⟨unexpected_expected m parent children, length_expected m parent children, hsub,
    (NodeRef.nodup_children parent children).sublist hsub, fun c hc => ?_⟩
  rw [unexpected_eq]
  apply first_not_mem_strays (NodeRef.nodup_zip_children parent children)
  simpa only [slotOf?_isSome] using hc

theorem content_in_sequence_without_unexpected_shuffled :
    let m := ofParticle .office2007 (.group .sequence .once
      [.leaf ⟨⟨"a"⟩, .once, none⟩, .leaf ⟨⟨"b"⟩, .once, none⟩, .leaf ⟨⟨"c"⟩, .once, none⟩])
    let node (k : String) : Element := .ofNode (.typed ⟨k⟩ ⟨0, k⟩ .empty)
    let parent : NodeRef := ⟨[], ⟨"p", 1⟩, none⟩
    let children := [node "x", node "b", node "a", node "c", node "a"]
    m.unexpected parent children = [parent.child [] "a", parent.child ["a"] "a"] ∧
      m.unexpected parent (m.expected parent children) = [] ∧
      parent.child [] "b" ∉ m.unexpected parent children := by
  intro m node parent children
  have hsequence := content_in_sequence_without_unexpected m parent children
  have hfound : m.unexpected parent children =
      [parent.child [] "a", parent.child ["a"] "a"] := by decide +kernel
  exact ⟨hfound, hsequence.1, hsequence.2.2.2.2 (node "b", parent.child [] "b") rfl⟩

end OfficeSchema.Model
