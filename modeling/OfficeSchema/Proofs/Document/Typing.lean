import OfficeSchema.Proofs.Document.Steps
import OfficeSchema.Proofs.Registry.Soundness

/-!
Typing of documents. An element is typed by the place where it stands, and its node and its place
make the place of its children. Whatever the events, the open elements are typed by the elements
around them, and so is the tree that they leave.
-/

namespace OfficeSchema

def Node.isWrapper : Node → Bool
  | .wrapper _ => true
  | _ => false

def Node.isBarren : Node → Bool
  | .typed _ _ c => c != .composite
  | .unknown _ _ => true
  | _ => false

/-- The nearest element around the end of a path that is no wrapper, if `around` is the one around
its start. -/
def Element.enclosing? (around : Option Element) : List Nat → Element → Option Element
  | [], _ => around
  | i :: is, e =>
      (e.children[i]?).bind (enclosing? (if e.node.isWrapper then around else some e) is)

namespace Document

def Place.Offers (k : Kind) : Place → Prop
  | .root => True
  | .under model? => ∃ m, model? = some m ∧ m.contains k = true

def Place.below (r : Registry) (place : Place) (n : Node) : Place :=
  .under (modelBelow r place.model? n)

def Settled (r : Registry) (place : Place) : Node → Prop
  | .typed k i c => r.kindOf? i = some k ∧ r.Declares k i c ∧ place.Offers k
  | _ => True

def TextKept (n : Node) (text : Option String) : Prop :=
  n.capability? ≠ some .text → ∀ s, text = some s → Text.allBlank s.toList = false

/-- A tree whose nodes are all typed by their places. -/
inductive Fits (r : Registry) : Place → Element → Prop
  | node {place : Place} {n : Node} {attributes : List Attribute} {text : Option String}
      {children : List Element} (settled : Settled r place n) (kept : TextKept n text)
      (below : ∀ c ∈ children, Fits r (place.below r n) c) :
      Fits r place ⟨n, attributes, text, children⟩

variable {r : Registry} {place : Place} {e : Element} {o : OpenElement}

theorem Fits.settled (h : Fits r place e) : Settled r place e.node := by
  cases h with
  | node h _ _ => exact h

theorem Fits.kept (h : Fits r place e) : TextKept e.node e.text := by
  cases h with
  | node _ h _ => exact h

theorem Fits.child (h : Fits r place e) {i : Nat} {c : Element} (hc : e.children[i]? = some c) :
    Fits r (place.below r e.node) c := by
  cases h with
  | node _ _ h => exact h c (List.mem_of_getElem? hc)

theorem fits_comment (s : String) : Fits r place (.ofNode (.comment s)) :=
  .node trivial (by simp [TextKept]) (by simp)

theorem fits_instruction (s : String) : Fits r place (.ofNode (.instruction s)) :=
  .node trivial (by simp [TextKept]) (by simp)

theorem Place.exists_of_create? {i : Identity} (h : place.create? r i = some e) :
    ∃ k, r.kindOf? i = some k ∧ r.instantiate? k = some e ∧ place.Offers k := by
  cases place with
  | root =>
      obtain ⟨k, hk, he⟩ := Option.bind_eq_some_iff.mp h
      exact ⟨k, hk, he, trivial⟩
  | under model? =>
      cases model? with
      | none => simp [Place.create?] at h
      | some m =>
          obtain ⟨k, hk, he⟩ := Option.bind_eq_some_iff.mp h
          obtain ⟨hm, he⟩ := Option.ite_none_right_eq_some.mp he
          exact ⟨k, hk, he, m, rfl, hm⟩

theorem Place.typed_of_create? (hr : r.Sound) {i : Identity} (h : place.create? r i = some e) :
    ∃ k c, e = .ofNode (.typed k i c) ∧ Settled r place e.node := by
  obtain ⟨k, hk, he, ho⟩ := Place.exists_of_create? h
  obtain ⟨c, hc, hd⟩ := hr.instantiate?_of_kindOf? hk
  obtain rfl := Option.some.inj (hc.symm.trans he)
  exact ⟨k, c, rfl, hk, hd, ho⟩

theorem settled_nodeOf (hr : r.Sound) (place : Place) (name : String) (q : QualifiedName) :
    Settled r place (nodeOf r place name q) := by
  rcases nodeOf_cases r place name q with ⟨w, -, -, hn⟩ | ⟨_, id, e, -, -, he, hn⟩ | hn
  · rw [hn]
    trivial
  · obtain ⟨_, _, -, hsettled⟩ := Place.typed_of_create? hr he
    rwa [hn]
  · rw [hn]
    trivial

structure OpenFits (r : Registry) (place : Place) (o : OpenElement) : Prop where
  settled : Settled r place o.node
  model : .under o.model? = place.below r o.node
  children : ∀ c ∈ o.children, Fits r (.under o.model?) c

theorem openFits_openElement (hr : r.Sound) {scope : Namespace.Scope} {tag : Markup.Tag}
    (h : openElement r place scope tag = .ok o) : OpenFits r place o := by
  obtain ⟨_, _, _, -, -, -, rfl⟩ := openElement_eq_ok h
  exact ⟨settled_nodeOf hr place _ _, rfl, by simp⟩

theorem OpenFits.addChild (h : OpenFits r place o) (he : Fits r (.under o.model?) e) :
    OpenFits r place (o.addChild e) := by
  refine ⟨h.settled, h.model, fun c hc => ?_⟩
  rcases List.mem_cons.mp hc with rfl | hc
  · exact he
  · exact h.children c hc

theorem OpenFits.appendText (h : OpenFits r place o) (s : String) :
    OpenFits r place (o.appendText s) :=
  ⟨h.settled, h.model, h.children⟩

theorem textKept_settledText (n : Node) (text : Option String) :
    TextKept n (OpenElement.settledText n text) := by
  intro hn s hs
  rw [OpenElement.settledText, if_neg (by simpa using hn), Option.filter_eq_some_iff] at hs
  simpa using hs.2

theorem OpenFits.close (h : OpenFits r place o) : Fits r place o.close := by
  refine .node h.settled (textKept_settledText _ _) fun c hc => ?_
  rw [← h.model]
  exact h.children c (List.mem_reverse.mp hc)

inductive StackFits (r : Registry) : List OpenElement → Prop
  | nil : StackFits r []
  | cons {o : OpenElement} {os : List OpenElement} (top : OpenFits r (State.place ⟨os, none⟩) o)
      (rest : StackFits r os) : StackFits r (o :: os)

namespace State

structure Fits (r : Registry) (s : State) : Prop where
  stack : StackFits r s.stack
  root : ∀ e, s.root = some e → Document.Fits r .root e

variable {s t : State}

theorem fits_start : start.Fits r := ⟨.nil, by simp [start]⟩

theorem Fits.settle (h : s.Fits r) (he : Document.Fits r s.place e) (hs : s.settle e = .ok t) :
    t.Fits r := by
  obtain ⟨stack, root⟩ := s
  obtain ⟨hstack, hroot⟩ := h
  cases hstack with
  | nil =>
      simp only [State.settle] at hs
      split at hs
      · simp at hs
      · obtain rfl := Except.ok.inj hs
        exact ⟨.nil, fun x hx => Option.some.inj hx ▸ he⟩
  | cons top rest =>
      obtain rfl := Except.ok.inj hs
      exact ⟨.cons (top.addChild he) rest, hroot⟩

theorem Fits.onTop (h : s.Fits r) {f : OpenElement → OpenElement}
    (hf : ∀ place o, OpenFits r place o → OpenFits r place (f o)) : (s.onTop f).Fits r := by
  obtain ⟨stack, root⟩ := s
  obtain ⟨hstack, hroot⟩ := h
  cases hstack with
  | nil => exact ⟨.nil, hroot⟩
  | cons top rest => exact ⟨.cons (hf _ _ top) rest, hroot⟩

theorem Fits.step (hr : r.Sound) (h : s.Fits r) {event : Markup.Event}
    (hs : s.step r event = .ok t) : t.Fits r := by
  cases steps_of_step hs with
  | opening ho => exact ⟨.cons (openFits_openElement hr ho) h.stack, h.root⟩
  | single ho ht => exact h.settle (openFits_openElement hr ho).close ht
  | @closing o os t hstack ht =>
      obtain ⟨stack, root⟩ := s
      obtain rfl := hstack
      cases h.stack with
      | cons top rest =>
          have hrest : State.Fits r ⟨os, root⟩ := ⟨rest, h.root⟩
          exact hrest.settle top.close ht
  | closed _ => exact h
  | text _ => exact h.onTop fun _ _ ho => ho.appendText _
  | outside _ => exact h
  | verbatim _ => exact h.onTop fun _ _ ho => ho.appendText _
  | comment _ => exact h.onTop fun _ _ ho => ho.addChild (fits_comment _)
  | instruction _ => exact h.onTop fun _ _ ho => ho.addChild (fits_instruction _)

theorem Fits.run (hr : r.Sound) (h : s.Fits r) {es : List Markup.Event}
    (hs : State.run r s es = .ok t) : t.Fits r := by
  induction es generalizing s with
  | nil =>
      obtain rfl := Except.ok.inj hs
      exact h
  | cons event es ih =>
      rw [State.run] at hs
      split at hs
      · next hstep => exact ih (h.step hr hstep) hs
      · simp at hs

theorem Fits.finish (h : s.Fits r) (hs : s.finish = .ok e) : Document.Fits r .root e := by
  unfold State.finish at hs
  split at hs
  · split at hs
    · next hroot =>
        obtain rfl := Except.ok.inj hs
        exact h.root _ hroot
    · simp at hs
  · simp at hs

end State

theorem fits_ofEvents (hr : r.Sound) {es : List Markup.Event} (h : ofEvents r es = .ok e) :
    Fits r .root e := by
  unfold ofEvents at h
  split at h
  · next hrun => exact (State.fits_start.run hr hrun).finish h
  · simp at h

def Governed (r : Registry) (around : Option Element) (place : Place) : Prop :=
  ∀ m, place.model? = some m → ∃ (a : Element) (k : Kind) (i : Identity), around = some a ∧
    a.node = .typed k i .composite ∧ (r.content? k).map Content.model = some m

theorem governed_root (r : Registry) : Governed r none .root := by
  intro m hm
  simp [Place.model?] at hm

theorem Fits.governed_below (hr : r.Sound) (h : Fits r place e) {around : Option Element}
    (hg : Governed r around place) :
    Governed r (if e.node.isWrapper then around else some e) (place.below r e.node) := by
  have hsettled := h.settled
  intro m hm
  cases hn : e.node with
  | typed k i c =>
      rw [hn] at hm hsettled
      obtain ⟨content, hc, rfl⟩ := Option.map_eq_some_iff.mp hm
      obtain rfl := hsettled.2.1.composite hr hc
      exact ⟨e, k, i, rfl, hn, by rw [hc, Option.map_some]⟩
  | wrapper w =>
      rw [hn] at hm
      exact hg m hm
  | unknown name address => simp [hn, Place.below, Place.model?, modelBelow] at hm
  | comment text => simp [hn, Place.below, Place.model?, modelBelow] at hm
  | instruction text => simp [hn, Place.below, Place.model?, modelBelow] at hm

theorem Fits.descendant (hr : r.Sound) (h : Fits r place e) {around : Option Element}
    (hg : Governed r around place) {is : List Nat} {a : Element}
    (hd : e.descendant? is = some a) :
    ∃ inner, Fits r inner a ∧ Governed r (e.enclosing? around is) inner ∧
      (inner = .root → place = .root ∧ is = []) := by
  -- on the path; the place and what is around it move down with the start
  induction is generalizing e place around with
  | nil =>
      obtain rfl := Option.some.inj hd
      exact ⟨place, h, hg, fun hroot => ⟨hroot, rfl⟩⟩
  | cons i is ih =>
      obtain ⟨c, hc, hd⟩ := Option.bind_eq_some_iff.mp hd
      obtain ⟨inner, hi, hgi, hroot⟩ := ih (h.child hc) (h.governed_below hr hg) hd
      refine ⟨inner, hi, ?_, fun hinner => nomatch (hroot hinner).1⟩
      rw [Element.enclosing?, hc, Option.bind_some]
      exact hgi

theorem Fits.below_barren (hr : r.Sound) (h : Fits r place e) (hb : e.node.isBarren = true) :
    place.below r e.node = .under none := by
  have hsettled := h.settled
  cases hn : e.node with
  | typed k i c =>
      rw [hn] at hsettled hb
      have hnone : r.content? k = none := by
        cases hc : r.content? k with
        | none => rfl
        | some content =>
            obtain rfl := hsettled.2.1.composite hr hc
            simp [Node.isBarren] at hb
      simp [Place.below, modelBelow, hnone]
  | unknown name address => rfl
  | comment text => rfl
  | instruction text => rfl
  | wrapper w => simp [hn, Node.isBarren] at hb

theorem not_typed_of_settled {n : Node} (h : Settled r (.under none) n) : n.isTyped = false := by
  cases n with
  | typed k i c =>
      obtain ⟨m, hm, -⟩ := h.2.2
      simp at hm
  | _ => rfl

theorem Fits.not_typed (h : Fits r (.under none) e) {is : List Nat} {a : Element}
    (hd : e.descendant? is = some a) : a.node.isTyped = false := by
  induction is generalizing e with
  | nil =>
      obtain rfl := Option.some.inj hd
      exact not_typed_of_settled h.settled
  | cons i is ih =>
      obtain ⟨c, hc, hd⟩ := Option.bind_eq_some_iff.mp hd
      have hnode := not_typed_of_settled h.settled
      have hbelow : Place.below r (.under none) e.node = .under none := by
        cases hn : e.node with
        | typed k i c => simp [hn, Node.isTyped] at hnode
        | _ => rfl
      exact ih (hbelow ▸ h.child hc) hd

/-- What a document keeps to, told from its nodes and the paths to them. -/
structure WellTyped (r : Registry) (root : Element) : Prop where
  identified : ∀ k i c, root.node = .typed k i c → r.kindOf? i = some k
  surrounded : ∀ is e k i c, is ≠ [] → root.descendant? is = some e → e.node = .typed k i c →
    ∃ a l j m, root.enclosing? none is = some a ∧ a.node = .typed l j .composite ∧
      (r.content? l).map Content.model = some m ∧ m.contains k = true
  declared : ∀ is e k i c, root.descendant? is = some e → e.node = .typed k i c →
    r.Declares k i c
  barren : ∀ is js a e, root.descendant? is = some a → a.node.isBarren = true → js ≠ [] →
    a.descendant? js = some e → e.node.isTyped = false
  kept : ∀ is e s, root.descendant? is = some e → e.node.capability? ≠ some .text →
    e.text = some s → Text.allBlank s.toList = false

theorem Fits.wellTyped (hr : r.Sound) (h : Fits r .root e) : WellTyped r e where
  identified k i c hn := by
    have hsettled := h.settled
    rw [hn] at hsettled
    exact hsettled.1
  surrounded is a k i c hne hd hn := by
    obtain ⟨inner, hi, hg, hroot⟩ := h.descendant hr (governed_root r) hd
    have hsettled := hi.settled
    rw [hn] at hsettled
    cases inner with
    | root => exact absurd (hroot rfl).2 hne
    | under model? =>
        obtain ⟨m, rfl, hm⟩ := hsettled.2.2
        obtain ⟨b, l, j, hb, hl, hc⟩ := hg m rfl
        exact ⟨b, l, j, m, hb, hl, hc, hm⟩
  declared is a k i c hd hn := by
    obtain ⟨inner, hi, -, -⟩ := h.descendant hr (governed_root r) hd
    have hsettled := hi.settled
    rw [hn] at hsettled
    exact hsettled.2.1
  barren is js a b hd hb hne hj := by
    obtain ⟨inner, hi, -, -⟩ := h.descendant hr (governed_root r) hd
    obtain ⟨j, js, rfl⟩ := List.exists_cons_of_ne_nil hne
    obtain ⟨c, hc, hj⟩ := Option.bind_eq_some_iff.mp hj
    have hchild := hi.child hc
    rw [hi.below_barren hr hb] at hchild
    exact hchild.not_typed hj
  kept is a s hd hn ht := by
    obtain ⟨inner, hi, -, -⟩ := h.descendant hr (governed_root r) hd
    exact hi.kept hn s ht

end Document

end OfficeSchema
