import OfficeSchema.Element.Outline
import OfficeSchema.Proofs.Attempts
import OfficeSchema.Proofs.Document.Typing
import OfficeSchema.Proofs.Lists
import OfficeSchema.Proofs.Markup.Lineages
import OfficeSchema.Proofs.Namespace.Correspondence
import OfficeSchema.Proofs.Registry.Building

namespace OfficeSchema

open Markup (Tag)

namespace Document

/-- The address of a prefix among tags, the nearest first. The prefixes of the language itself are
fixed, and any other one has the address that the nearest tag declares for it. -/
def addressAmong? (tags : List Tag) (label : String) : Option String :=
  if label = "xml" then some Namespace.xmlAddress
  else if label = "xmlns" then some Namespace.xmlnsAddress
  else tags.findSome? (fun t => t.value? ("xmlns:" ++ label))

def defaultAmong? (tags : List Tag) : Option String := tags.findSome? (fun t => t.value? "xmlns")

def qualifiedAmong? (tags : List Tag) (name : String) : Option QualifiedName :=
  match Text.splitColon name with
  | none => some ⟨defaultAmong? tags, name⟩
  | some (label, rest) => (addressAmong? tags label).map (fun address => ⟨some address, rest⟩)

def attributeAmong? (t : Namespace.Table) (tags : List Tag) (key value : String) :
    Option Attribute :=
  match Text.splitColon key with
  | none => some ⟨none, key, none, none, value⟩
  | some (label, rest) => (addressAmong? tags label).map
      (fun address => ⟨some label, rest, t.idOf? address, some address, value⟩)

structure Reflects (tags : List Tag) (s : Namespace.Scope) : Prop where
  addresses : ∀ label, s.address? label = addressAmong? tags label
  default : s.default = defaultAmong? tags

variable {t : Namespace.Table} {r : Registry} {s : Namespace.Scope} {tag : Tag} {tags : List Tag}
  {pairs : List (String × String)} {label name : String} {q : QualifiedName}

theorem lookup_declare (label : String) (s : Namespace.Scope) (key value : String) :
    (declare s key value).bindings.lookup label =
      if key = "xmlns:" ++ label then some value else s.bindings.lookup label := by
  have hkey (l : List Char) : Text.stripped? "xmlns:".toList key.toList = some l ↔
      key = "xmlns:" ++ String.ofList l := by
    simp only [Text.stripped?_eq_some_iff, ← String.toList_inj, String.toList_append,
      String.toList_ofList]
  unfold declare
  split
  · next hdefault =>
      have hne : ¬key = "xmlns:" ++ label := by
        rw [eq_of_beq hdefault, ← String.toList_inj, String.toList_append]
        simp
      rw [if_neg hne]
      rfl
  · split
    · next l hl =>
        obtain rfl := (hkey l).mp hl
        simp only [Namespace.Scope.bind, lookup_cons_ite, String.append_right_inj]
    · next hl =>
        have hne : ¬key = "xmlns:" ++ label := by
          intro h
          rw [(hkey label.toList).mpr (by rw [String.ofList_toList]; exact h)] at hl
          simp at hl
        rw [if_neg hne]

theorem default_declare (s : Namespace.Scope) (key value : String) :
    (declare s key value).default = if key = "xmlns" then some value else s.default := by
  unfold declare
  by_cases h : key = "xmlns"
  · simp [h, Namespace.Scope.setDefault]
  · rw [if_neg (by simpa using h), if_neg h]
    split <;> rfl

theorem view_declareAll (view : Namespace.Scope → Option String) {wanted : String}
    (hview : ∀ s key value,
      view (declare s key value) = if key = wanted then some value else view s)
    (h : (pairs.map Prod.fst).Nodup) (s : Namespace.Scope) :
    view (declareAll s pairs) = (pairs.lookup wanted).or (view s) := by
  -- later keys are read last and would win, but none of them is the same key again
  induction pairs generalizing s with
  | nil => rfl
  | cons p pairs ih =>
      obtain ⟨key, value⟩ := p
      obtain ⟨hkey, hrest⟩ := List.nodup_cons.mp h
      rw [declareAll, ih hrest, hview, lookup_cons_ite]
      split
      · next heq =>
          rw [lookup_eq_none_of_not_mem (heq ▸ hkey)]
          rfl
      · rfl

theorem lookup_declareAll (h : (pairs.map Prod.fst).Nodup) (s : Namespace.Scope)
    (label : String) : (declareAll s pairs).bindings.lookup label =
      (pairs.lookup ("xmlns:" ++ label)).or (s.bindings.lookup label) :=
  view_declareAll (fun s => s.bindings.lookup label) (lookup_declare label) h s

theorem default_declareAll (h : (pairs.map Prod.fst).Nodup) (s : Namespace.Scope) :
    (declareAll s pairs).default = (pairs.lookup "xmlns").or s.default :=
  view_declareAll Namespace.Scope.default default_declare h s

theorem reflects_empty : Reflects [] .empty := by
  refine ⟨fun label => ?_, rfl⟩
  simp [Namespace.Scope.address?, addressAmong?, Namespace.Scope.empty]

theorem Reflects.declareAll (h : Reflects tags s) (ht : tag.attributes = .ok pairs) :
    Reflects (tag :: tags) (declareAll s pairs) := by
  have hnodup := Tag.nodup_attributes ht
  constructor
  · intro label
    have hlabel := h.addresses label
    simp only [Namespace.Scope.address?, addressAmong?, beq_iff_eq] at hlabel ⊢
    split
    · rfl
    · split
      · rfl
      · next hxml hxmlns =>
          rw [if_neg hxml, if_neg hxmlns, if_neg hxml, if_neg hxmlns] at hlabel
          rw [lookup_declareAll hnodup, hlabel, List.findSome?_cons, Tag.value?_eq ht]
          cases pairs.lookup ("xmlns:" ++ label) <;> rfl
  · rw [default_declareAll hnodup, h.default, defaultAmong?, defaultAmong?,
      List.findSome?_cons, Tag.value?_eq ht]
    cases pairs.lookup "xmlns" <;> rfl

theorem Reflects.resolve (h : Reflects tags s) (hq : s.resolve name = .ok q) :
    qualifiedAmong? tags name = some q := by
  cases hname : Text.splitColon name with
  | none =>
      simp only [Namespace.Scope.resolve, hname] at hq
      obtain rfl := Except.ok.inj hq
      simp only [qualifiedAmong?, hname, h.default]
  | some p =>
      simp only [Namespace.Scope.resolve, hname] at hq
      split at hq
      · simp at hq
      · next address haddress =>
          obtain rfl := Except.ok.inj hq
          simp only [qualifiedAmong?, hname, ← h.addresses, haddress, Option.map_some]

theorem Reflects.resolveAttribute (h : Reflects tags s) {key value : String} {a : Attribute}
    (ha : resolveAttribute t s key value = .ok a) :
    attributeAmong? t tags key value = some a := by
  cases hkey : Text.splitColon key with
  | none =>
      simp only [Document.resolveAttribute, hkey] at ha
      obtain rfl := Except.ok.inj ha
      simp only [attributeAmong?, hkey]
  | some p =>
      simp only [Document.resolveAttribute, hkey] at ha
      split at ha
      · simp at ha
      · next address haddress =>
          obtain rfl := Except.ok.inj ha
          simp only [attributeAmong?, hkey, ← h.addresses, haddress, Option.map_some]

theorem Reflects.resolveAttributes (h : Reflects tags s) {attributes : List Attribute}
    (ha : resolveAttributes t s pairs = .ok attributes) :
    List.Forall₂ (fun p a => attributeAmong? t tags p.1 p.2 = some a) pairs attributes := by
  induction pairs generalizing attributes with
  | nil =>
      obtain rfl := Except.ok.inj ha
      exact .nil
  | cons p pairs ih =>
      rw [Document.resolveAttributes] at ha
      split at ha
      · simp at ha
      · next hp =>
          split at ha
          · simp at ha
          · next hrest =>
              obtain rfl := Except.ok.inj ha
              exact .cons (h.resolveAttribute hp) (ih hrest)

def Bears (t : Namespace.Table) (name : String) (q : QualifiedName) : Node → Prop
  | .typed _ i _ => ∃ address, q = ⟨some address, i.localName⟩ ∧
      t.idOf? address = some i.namespaceId ∧ t.address? i.namespaceId = some address
  | .unknown written address => written = name ∧ address = q.address
  | .wrapper w => q.address = some Namespace.compatibilityAddress ∧
      wrapperNamed? q.localName = some w
  | .comment _ => False
  | .instruction _ => False

/-- A node and attributes that are named as a tag and the tags around it resolve them. -/
structure Resolved (t : Namespace.Table) (tag : Tag) (around : List Tag) (n : Node)
    (attributes : List Attribute) : Prop where
  name : ∃ q, qualifiedAmong? (tag :: around) (String.ofList tag.name) = some q ∧
    Bears t (String.ofList tag.name) q n
  attributes : ∃ pairs, tag.attributes = .ok pairs ∧ List.Forall₂
    (fun p a => attributeAmong? t (tag :: around) p.1 p.2 = some a) pairs attributes

/-- Elements, each inside the next, that are resolved by tags, each inside the next. -/
inductive Spelt (t : Namespace.Table) : List Tag → List Element → Prop
  | nil : Spelt t [] []
  | cons {tag : Tag} {around : List Tag} {e : Element} {es : List Element}
      (inner : Resolved t tag around e.node e.attributes) (outer : Spelt t around es) :
      Spelt t (tag :: around) (e :: es)

theorem bears_nodeOf (hr : r.Sound) (ht : r.namespaces.OneToOne) (place : Place) (name : String)
    (q : QualifiedName) : Bears r.namespaces name q (nodeOf r place name q) := by
  rcases nodeOf_cases r place name q with ⟨w, hq, hw, hn⟩ | ⟨address, id, e, hq, hid, he, hn⟩ | hn
  · rw [hn]
    exact ⟨hq, hw⟩
  · obtain ⟨k, c, rfl, -⟩ := Place.typed_of_create? hr he
    rw [hn]
    exact ⟨address, by rw [← hq], hid, ht.address?_eq_some_iff.mpr hid⟩
  · rw [hn]
    exact ⟨rfl, rfl⟩

theorem resolved_openElement (hr : r.Sound) (ht : r.namespaces.OneToOne) {place : Place}
    {o : OpenElement} (hs : Reflects tags s) (h : openElement r place s tag = .ok o) :
    Resolved r.namespaces tag tags o.node o.attributes ∧ Reflects (tag :: tags) o.scope ∧
      o.children = [] := by
  obtain ⟨pairs, q, attributes, hpairs, hq, hattributes, rfl⟩ := openElement_eq_ok h
  have hscope := hs.declareAll hpairs
  exact ⟨⟨⟨q, hscope.resolve hq, bears_nodeOf hr ht place _ q⟩, pairs, hpairs,
    hscope.resolveAttributes hattributes⟩, hscope, rfl⟩

end Document

mutual

/-- The elements of a tree in document order, each in front of those around it. Comments and
instructions are no elements. -/
def Element.lineages (around : List Element) : Element → List (List Element)
  | ⟨n, attributes, text, children⟩ =>
      if n.isMisc then []
      else (⟨n, attributes, text, children⟩ :: around) ::
        lineagesBelow (⟨n, attributes, text, children⟩ :: around) children

def Element.lineagesBelow (around : List Element) : List Element → List (List Element)
  | [] => []
  | c :: cs => lineages around c ++ lineagesBelow around cs

end

theorem Element.lineagesBelow_append (around : List Element) (cs ds : List Element) :
    lineagesBelow around (cs ++ ds) = lineagesBelow around cs ++ lineagesBelow around ds := by
  induction cs with
  | nil => rfl
  | cons c cs ih => rw [List.cons_append, lineagesBelow, lineagesBelow, ih, List.append_assoc]

namespace Document

def Follows (t : Namespace.Table) (tags : List Tag) (ls : List (List Tag)) (cs : List Element) :
    Prop :=
  ∀ around, Spelt t tags around → List.Forall₂ (Spelt t) ls (Element.lineagesBelow around cs)

variable {ls ms : List (List Tag)} {cs ds : List Element} {o : OpenElement} {root : Option Element}

theorem follows_nil : Follows t tags [] [] := fun _ _ => .nil

theorem Follows.append (h : Follows t tags ls cs) (k : Follows t tags ms ds) :
    Follows t tags (ls ++ ms) (cs ++ ds) := by
  intro around haround
  rw [Element.lineagesBelow_append]
  exact List.rel_append (h around haround) (k around haround)

theorem follows_misc {n : Node} (hn : n.isMisc = true) : Follows t tags [] [.ofNode n] := by
  intro around haround
  simp [Element.lineagesBelow, Element.ofNode, Element.lineages, hn]

theorem Resolved.isMisc {around : List Tag} {n : Node} {attributes : List Attribute}
    (h : Resolved t tag around n attributes) : n.isMisc = false := by
  obtain ⟨q, -, hn⟩ := h.name
  cases n with
  | comment text => exact hn.elim
  | instruction text => exact hn.elim
  | _ => rfl

/-- The open elements, the innermost first, with the tags that are open; the lineages of all tags
so far spell the elements that were read. -/
inductive StackFollows (t : Namespace.Table) (root : Option Element) :
    List Tag → List (List Tag) → List OpenElement → Prop
  | nil {ls : List (List Tag)} (h : Follows t [] ls root.toList) : StackFollows t root [] ls []
  | cons {tag : Tag} {tags : List Tag} {ls ms : List (List Tag)} {o : OpenElement}
      {os : List OpenElement} (top : Resolved t tag tags o.node o.attributes)
      (scope : Reflects (tag :: tags) o.scope)
      (children : Follows t (tag :: tags) ms o.children.reverse)
      (rest : StackFollows t root tags ls os) :
      StackFollows t root (tag :: tags) (ls ++ (tag :: tags) :: ms) (o :: os)

theorem follows_close (top : Resolved t tag tags o.node o.attributes)
    (children : Follows t (tag :: tags) ms o.children.reverse) :
    Follows t tags ((tag :: tags) :: ms) [o.close] := by
  intro around haround
  have hspelt : Spelt t (tag :: tags) (o.close :: around) := .cons top haround
  have hlineages : Element.lineagesBelow around [o.close] =
      (o.close :: around) :: Element.lineagesBelow (o.close :: around) o.children.reverse := by
    simp [Element.lineagesBelow, Element.lineages, OpenElement.close, top.isMisc]
  rw [hlineages]
  exact .cons hspelt (children _ hspelt)

namespace State

def Spells (t : Namespace.Table) (tags : List Tag) (ls : List (List Tag)) (s : State) : Prop :=
  StackFollows t s.root tags ls s.stack

variable {u v : State}

theorem spells_start (t : Namespace.Table) : start.Spells t [] [] := .nil follows_nil

theorem Spells.scope (h : u.Spells t tags ls) : Reflects tags u.scope := by
  obtain ⟨stack, root⟩ := u
  cases h with
  | nil => exact reflects_empty
  | cons _ scope _ _ => exact scope

theorem Spells.settle {e : Element} (h : u.Spells t tags ls) (he : Follows t tags ms [e])
    (hv : u.settle e = .ok v) : v.Spells t tags (ls ++ ms) := by
  obtain ⟨stack, root⟩ := u
  cases h with
  | nil hroot =>
      simp only [State.settle] at hv
      split at hv
      · simp at hv
      · next hnone =>
          obtain rfl := Except.ok.inj hv
          obtain rfl : root = none := by simpa using hnone
          exact .nil (hroot.append he)
  | @cons tag tags ls cs o os top scope children rest =>
      obtain rfl := Except.ok.inj hv
      rw [List.append_assoc, List.cons_append]
      refine .cons top scope ?_ rest
      simp only [OpenElement.addChild, List.reverse_cons]
      exact children.append he

theorem Spells.appendText (h : u.Spells t tags ls) (text : String) :
    (u.onTop (fun o => o.appendText text)).Spells t tags ls := by
  obtain ⟨stack, root⟩ := u
  cases h with
  | nil hroot => exact .nil hroot
  | cons top scope children rest => exact .cons top scope children rest

theorem Spells.addMisc (h : u.Spells t tags ls) {n : Node} (hn : n.isMisc = true) :
    (u.onTop (fun o => o.addChild (.ofNode n))).Spells t tags ls := by
  obtain ⟨stack, root⟩ := u
  cases h with
  | nil hroot => exact .nil hroot
  | @cons tag tags ls ms o os top scope children rest =>
      have hchildren : Follows t (tag :: tags) ms (o.addChild (.ofNode n)).children.reverse := by
        have hboth := children.append (follows_misc hn)
        rwa [List.append_nil, ← List.reverse_cons] at hboth
      exact .cons top scope hchildren rest

theorem Spells.step (hr : r.Sound) (ht : r.namespaces.OneToOne)
    (h : u.Spells r.namespaces tags ls) {event : Markup.Event} (hv : u.step r event = .ok v) :
    v.Spells r.namespaces (event.openBehind tags) (ls ++ event.lineage tags) := by
  have hnone {w : State} {tags : List Tag} (hw : w.Spells r.namespaces tags ls) :
      w.Spells r.namespaces tags (ls ++ []) := by
    rwa [List.append_nil]
  cases steps_of_step hv with
  | opening ho =>
      obtain ⟨top, scope, hempty⟩ := resolved_openElement hr ht h.scope ho
      exact .cons top scope (by rw [hempty]; exact follows_nil) h
  | single ho hv =>
      obtain ⟨top, -, hempty⟩ := resolved_openElement hr ht h.scope ho
      exact h.settle (follows_close top (by rw [hempty]; exact follows_nil)) hv
  | @closing o os v hstack hv =>
      obtain ⟨stack, root⟩ := u
      obtain rfl := hstack
      apply hnone
      cases h with
      | cons top scope children rest =>
          have hrest : State.Spells r.namespaces _ _ ⟨os, root⟩ := rest
          exact hrest.settle (follows_close top children) hv
  | closed hstack =>
      obtain ⟨stack, root⟩ := u
      obtain rfl := hstack
      apply hnone
      cases h with
      | nil hroot => exact .nil hroot
  | text _ => exact hnone (h.appendText _)
  | outside _ => exact hnone h
  | verbatim _ => exact hnone (h.appendText _)
  | comment _ => exact hnone (h.addMisc rfl)
  | instruction _ => exact hnone (h.addMisc rfl)

theorem Spells.run (hr : r.Sound) (ht : r.namespaces.OneToOne)
    (h : u.Spells r.namespaces tags ls) {es : List Markup.Event} (hv : State.run r u es = .ok v) :
    v.Spells r.namespaces (Markup.openAfter tags es)
      (ls ++ Markup.lineages tags es) := by
  -- on the events; the open tags and the lineages so far go along with the state
  induction es generalizing u tags ls with
  | nil =>
      obtain rfl := Except.ok.inj hv
      rw [Markup.lineages, List.append_nil]
      exact h
  | cons event es ih =>
      rw [State.run] at hv
      split at hv
      · next hstep =>
          rw [Markup.lineages, ← List.append_assoc]
          exact ih (h.step hr ht hstep) hv
      · simp at hv

theorem Spells.finish {e : Element} (h : u.Spells t tags ls) (he : u.finish = .ok e) :
    List.Forall₂ (Spelt t) ls (e.lineages []) := by
  obtain ⟨stack, root⟩ := u
  cases h with
  | nil hroot =>
      cases root with
      | none => simp [State.finish] at he
      | some e' =>
          obtain rfl := Except.ok.inj he
          have hspelt := hroot [] .nil
          simpa [Element.lineagesBelow] using hspelt
  | cons => simp [State.finish] at he

end State

theorem spelt_ofEvents (hr : r.Sound) (ht : r.namespaces.OneToOne) {es : List Markup.Event}
    {e : Element} (h : ofEvents r es = .ok e) :
    List.Forall₂ (Spelt r.namespaces) (Markup.lineages [] es) (e.lineages []) := by
  unfold ofEvents at h
  split at h
  · next hrun => exact ((State.spells_start _).run hr ht hrun).finish h
  · simp at h

theorem Resolved.isSome_address? {around : List Tag} {n : Node} {attributes : List Attribute}
    {name label rest : String} (h : Resolved t tag around n attributes)
    (hname : name = String.ofList tag.name ∨ (tag.value? name).isSome)
    (hlabel : Text.splitColon name = some (label, rest)) :
    (addressAmong? (tag :: around) label).isSome := by
  rcases hname with rfl | hvalue
  · obtain ⟨q, hq, -⟩ := h.name
    simp only [qualifiedAmong?, hlabel, Option.map_eq_some_iff] at hq
    obtain ⟨address, haddress, -⟩ := hq
    rw [haddress, Option.isSome_some]
  · obtain ⟨pairs, hpairs, hattributes⟩ := h.attributes
    obtain ⟨value, hvalue⟩ := Option.isSome_iff_exists.mp hvalue
    rw [Tag.value?_eq hpairs] at hvalue
    obtain ⟨front, back, rfl, -⟩ := List.lookup_eq_some_iff.mp hvalue
    have hmem : (name, value) ∈ front ++ (name, value) :: back := by simp
    obtain ⟨a, -, ha⟩ := exists_related_of_mem hattributes hmem
    simp only [attributeAmong?, hlabel, Option.map_eq_some_iff] at ha
    obtain ⟨address, haddress, -⟩ := ha
    rw [haddress, Option.isSome_some]

theorem Spelt.resolved {around : List Tag} {es : List Element}
    (h : Spelt t (tag :: around) es) :
    ∃ e : Element, Resolved t tag around e.node e.attributes := by
  cases h with
  | cons inner _ => exact ⟨_, inner⟩

/-- The elements that were read from events are those of the tags, and each of them is named as its
tag and the tags around it say; what stands between whole elements is not changed by them. A prefix
that no tag around it declares fails the reading. -/
theorem ofEvents_scoped {v : Version} {ds : List Declaration} {known : List Namespace.Entry}
    (hknown : Namespace.Table.insertAll known .empty = .ok t)
    (hb : Registry.build v t ds = .ok r) (events : List Markup.Event) :
    (∀ root, ofEvents r events = .ok root →
      List.Forall₂ (Spelt t) (Markup.lineages [] events) (root.lineages []) ∧
      ∀ before inside after, events = before ++ inside ++ after →
        Markup.Balanced inside → ∃ es fs gs, root.lineages [] = es ++ fs ++ gs ∧
          List.Forall₂ (Spelt t) (Markup.lineages [] before) es ∧
          List.Forall₂ (Spelt t) (Markup.lineages (Markup.openAfter [] before) inside) fs ∧
          List.Forall₂ (Spelt t) (Markup.lineages (Markup.openAfter [] before) after) gs) ∧
    ∀ tag around name label rest,
      tag :: around ∈ Markup.lineages [] events →
      name = String.ofList tag.name ∨ (tag.value? name).isSome →
      Text.splitColon name = some (label, rest) → addressAmong? (tag :: around) label = none →
      ∃ e, ofEvents r events = .error e := by
  have hr := Registry.sound_of_build hb
  have htable := Namespace.Table.oneToOne_empty.insertAll hknown
  have hsame : r.namespaces = t := by
    obtain ⟨-, rfl⟩ := Registry.build_eq_ok_iff.mp hb
    rfl
  subst hsame
  have hspelt (root : Element) (h : ofEvents r events = .ok root) := spelt_ofEvents hr htable h
  refine ⟨fun root h => ⟨hspelt root h, ?_⟩, ?_⟩
  · rintro before inside after rfl hinside
    have hboth := hspelt root h
    rw [Markup.lineages_around_balanced hinside] at hboth
    obtain ⟨es, gs, hes, hfront, hafter⟩ := exists_append_of_forall₂ hboth
    obtain ⟨es, fs, rfl, hbefore, hinner⟩ := exists_append_of_forall₂ hfront
    exact ⟨es, fs, gs, hes, hbefore, hinner, hafter⟩
  · intro tag around name label rest htag hname hlabel hnone
    cases h : ofEvents r events with
    | error e => exact ⟨e, rfl⟩
    | ok root =>
        obtain ⟨es, -, hes⟩ := exists_related_of_mem (hspelt root h) htag
        obtain ⟨e, he⟩ := hes.resolved
        have hsome := he.isSome_address? hname hlabel
        simp [hnone] at hsome

theorem parse_scoped {v : Version} {ds : List Declaration} {known : List Namespace.Entry}
    (hknown : Namespace.Table.insertAll known .empty = .ok t)
    (hb : Registry.build v t ds = .ok r) (xml : String) :
    (∀ root, parse r xml = .ok root →
      List.Forall₂ (Spelt t) (Markup.lineages [] (Markup.events xml.toList)) (root.lineages []) ∧
      ∀ before inside after, Markup.events xml.toList = before ++ inside ++ after →
        Markup.Balanced inside → ∃ es fs gs, root.lineages [] = es ++ fs ++ gs ∧
          List.Forall₂ (Spelt t) (Markup.lineages [] before) es ∧
          List.Forall₂ (Spelt t) (Markup.lineages (Markup.openAfter [] before) inside) fs ∧
          List.Forall₂ (Spelt t) (Markup.lineages (Markup.openAfter [] before) after) gs) ∧
    ∀ tag around name label rest,
      tag :: around ∈ Markup.lineages [] (Markup.events xml.toList) →
      name = String.ofList tag.name ∨ (tag.value? name).isSome →
      Text.splitColon name = some (label, rest) → addressAmong? (tag :: around) label = none →
      ∃ e, parse r xml = .error e :=
  ofEvents_scoped hknown hb (Markup.events xml.toList)

def boxNamespaces : List Namespace.Entry := [⟨1, "n", "urn:n"⟩, ⟨2, "m", "urn:m"⟩]

def boxSchema : List Declaration :=
  [{ Declaration.bare ⟨"n:box"⟩ ⟨1, "box"⟩ .composite with
      content := some (.group .sequence .once
        [.leaf ⟨⟨"m:note"⟩, .zeroOrMore, none⟩, .leaf ⟨⟨"n:box"⟩, .zeroOrMore, none⟩]) },
    .bare ⟨"m:note"⟩ ⟨2, "note"⟩ .empty]

/-- A prefix is another one inside a tag, whatever its place there, and the old one behind it. -/
def shadowed : String :=
  "<p:box xmlns:p='urn:n'><p:note k:x='' xmlns:k='urn:n' xmlns:p='urn:m'/><p:box/></p:box>"

def strayed : String := "<p:box xmlns:p='urn:n'><k:box xmlns:k='urn:n'/><k:box/></p:box>"

theorem parse_scoped_shadowed :
    ∃ t r root, Namespace.Table.insertAll boxNamespaces .empty = .ok t ∧
      Registry.build .office2007 t boxSchema = .ok r ∧ parse r shadowed = .ok root ∧
      root.outline =
        "n:box(@xmlns:p=urn:n,m:note(@k:x=,@xmlns:k=urn:n,@xmlns:p=urn:m),n:box)" ∧
      List.Forall₂ (Spelt t) (Markup.lineages [] (Markup.events shadowed.toList))
        (root.lineages []) ∧
      ∃ e, parse r strayed = .error e := by
  have h : ((Namespace.Table.insertAll boxNamespaces .empty).toOption.bind fun t =>
      (Registry.build .office2007 t boxSchema).toOption.bind fun r =>
        (parse r shadowed).toOption.map Element.outline) =
      some "n:box(@xmlns:p=urn:n,m:note(@k:x=,@xmlns:k=urn:n,@xmlns:p=urn:m),n:box)" := by
    decide +kernel
  obtain ⟨t, ht, h⟩ := Option.bind_eq_some_iff.mp h
  obtain ⟨r, hr, h⟩ := Option.bind_eq_some_iff.mp h
  obtain ⟨root, hroot, houtline⟩ := Option.map_eq_some_iff.mp h
  have hknown := eq_ok_of_toOption ht
  have hb := eq_ok_of_toOption hr
  have hp := eq_ok_of_toOption hroot
  obtain ⟨hread, -⟩ := parse_scoped hknown hb shadowed
  obtain ⟨-, hfails⟩ := parse_scoped hknown hb strayed
  refine ⟨t, r, root, hknown, hb, hp, houtline, (hread root hp).1, ?_⟩
  apply hfails ⟨"k:box".toList, []⟩ [⟨"p:box".toList, " xmlns:p='urn:n'".toList⟩] "k:box" "k" "box"
  · decide +kernel
  · exact .inl String.ofList_toList.symm
  · decide +kernel
  · decide +kernel

end Document

end OfficeSchema
