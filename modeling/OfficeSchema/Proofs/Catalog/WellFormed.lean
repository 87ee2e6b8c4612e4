import OfficeSchema.Proofs.Catalog.Contents
import OfficeSchema.Proofs.Catalog.Loading

namespace OfficeSchema

namespace Catalog

open Particle (Bound)
open Listing (ElementEntry TypeEntry)

def Registers (c : Catalog) (id : Nat) : Prop := (c.namespaces.get? id).isSome = true

def Knows (c : Catalog) (t : SimpleType) : Prop :=
  (∃ name, (name, t) ∈ c.types) ∨ ∃ p, t = .ofPrimitive p

structure Holds (c : Catalog) (a : AttributeDecl) : Prop where
  qualified : a.namespaceId.isSome = (Text.splitColon a.name).isSome
  registered : ∀ id ∈ a.namespaceId, c.Registers id
  typed : c.Knows a.type

structure WellFormed (c : Catalog) (d : Declaration) : Prop where
  content : d.content.isSome → d.capability = .composite
  text : d.text.isSome → d.capability = .text
  bound : ∀ p ∈ d.content, p.Everywhere Bound
  registered : c.Registers d.identity.namespaceId
  textTyped : ∀ t ∈ d.text, c.Knows t
  attributes : ∀ a ∈ d.attributes, c.Holds a

/-- What an element stands for, under its name and with its content. -/
structure Renders (e : ElementEntry) (d : Declaration) : Prop where
  name : d.kind.name = e.name
  content : d.content.map Particle.entry = e.content

def Declares (ts : List (String × TypeEntry)) (x : String × SimpleType) : Prop :=
  ∃ e t, (x.1, e) ∈ ts ∧ typeOfEntry x.1 e = .ok t ∧ x.2 = t.named x.1

variable {c c' : Catalog} {l : Listing} {e : ElementEntry} {d : Declaration}
  {capability : Capability}

theorem mem_place {α : Type} {name : String} {a : α} {l : List (String × α)} {x : String × α}
    (h : x ∈ Listing.place name a l) : x = (name, a) ∨ x ∈ l := by
  induction l with
  | nil => exact .inl (List.mem_singleton.mp h)
  | cons y l ih =>
      rw [Listing.place] at h
      split at h
      · exact (List.mem_cons.mp h).imp_right (List.mem_cons_of_mem y)
      · rcases List.mem_cons.mp h with rfl | h
        · exact .inr List.mem_cons_self
        · exact (ih h).imp_right (List.mem_cons_of_mem y)

theorem declares_addTypes {ts us : List (String × TypeEntry)} (h : addTypes ts c = .ok c')
    (hts : ts ⊆ us) (hc : ∀ x ∈ c.types, Declares us x) : ∀ x ∈ c'.types, Declares us x := by
  induction ts generalizing c with
  | nil =>
      obtain rfl := Except.ok.inj h
      exact hc
  | cons y ts ih =>
      obtain ⟨name, entry⟩ := y
      obtain ⟨hy, hts⟩ := List.cons_subset.mp hts
      rw [addTypes] at h
      split at h
      · next t ht =>
          refine ih h hts fun x hx => ?_
          rcases mem_place hx with rfl | hx
          · exact ⟨entry, t, hy, ht, rfl⟩
          · exact hc x hx
      · simp at h

theorem declares_ofListing (h : ofListing l = .ok c) : ∀ x ∈ c.types, Declares l.types x := by
  obtain ⟨-, ⟨c', hc', htypes⟩, -⟩ := ofListing_eq_ok h
  rw [← htypes]
  exact declares_addTypes hc' (List.Subset.refl _) (by simp [empty])

theorem knows_of_typeFor {owner name : String} {t : SimpleType}
    (h : c.typeFor owner name = .ok t) : c.Knows t := by
  rw [typeFor] at h
  split at h
  · next u hu =>
      obtain rfl := Except.ok.inj h
      rw [type?, Option.or_eq_some_iff] at hu
      rcases hu with hu | ⟨-, hu⟩
      · obtain ⟨before, after, htypes, -⟩ := List.lookup_eq_some_iff.mp hu
        exact .inl ⟨name, by simp [htypes]⟩
      · obtain ⟨p, -, rfl⟩ := Option.map_eq_some_iff.mp hu
        exact .inr ⟨p, rfl⟩
  · simp at h

theorem holds_of_attributeOf {e : Listing.AttributeEntry} {a : AttributeDecl}
    (h : c.attributeOf e = .ok a) : c.Holds a := by
  obtain ⟨t, ht, h⟩ := bind_eq_ok_iff.mp h
  obtain ⟨b, hb, h⟩ := bind_eq_ok_iff.mp h
  obtain ⟨r, hr, rfl⟩ := map_eq_ok_iff.mp hb
  obtain rfl := Except.ok.inj h
  have hr := Namespace.named_eq_ok_iff.mp hr
  rw [AttributeRef.ofName] at hr
  split at hr
  · next hname =>
      obtain rfl := Except.ok.inj hr
      exact ⟨by simp [AttributeDecl.ofRef, hname], by simp [AttributeDecl.ofRef],
        knows_of_typeFor ht⟩
  · next label rest hname =>
      split at hr
      · simp at hr
      · next id hid =>
          obtain rfl := Except.ok.inj hr
          refine ⟨by simp [AttributeDecl.ofRef, hname], fun i hi => ?_, knows_of_typeFor ht⟩
          obtain rfl := Option.some.inj hi
          exact Namespace.Table.isSome_get?_of_idOfPrefix? hid

theorem content_eq_ok {content : Option Particle} (h : contentOf e capability = .ok content) :
    (content.isSome → capability = .composite) ∧ (∀ p ∈ content, p.Everywhere Bound) ∧
      content.map Particle.entry = e.content := by
  rw [contentOf] at h
  split at h
  · next hnone =>
      obtain rfl := Except.ok.inj h
      simp [hnone]
  · next entry hsome =>
      split at h
      · next hcomposite =>
          split at h
          · next p hp =>
              obtain rfl := Except.ok.inj h
              obtain ⟨rfl, hbound⟩ := (particleOf_eq_ok_iff entry p).mp hp
              simp [hcomposite, hbound, hsome]
          · simp at h
      · simp at h

theorem text_eq_ok {text : Option SimpleType} (h : c.textOf e capability = .ok text) :
    (text.isSome → capability = .text) ∧ ∀ t ∈ text, c.Knows t := by
  rw [textOf] at h
  split at h
  · obtain rfl := Except.ok.inj h
    simp
  · split at h
    · next htext =>
        obtain ⟨t, ht, rfl⟩ := map_eq_ok_iff.mp h
        simp [htext, knows_of_typeFor ht]
    · simp at h

theorem declarationOf_wellFormed (h : c.declarationOf e = .ok d) :
    c.WellFormed d ∧ Renders e d := by
  obtain ⟨capability, i, content, text, attributes, _, -, hi, hcontent, htext, hattributes, -,
    rfl⟩ := declarationOf_eq_ok h
  obtain ⟨hcomposite, hbound, hentry⟩ := content_eq_ok hcontent
  obtain ⟨hleaf, htyped⟩ := text_eq_ok htext
  obtain ⟨label, -, hid⟩ := Namespace.Table.identity_eq_ok_iff.mp hi
  exact ⟨⟨hcomposite, hleaf, hbound, Namespace.Table.isSome_get?_of_idOfPrefix? hid, htyped,
    forall_mem_of_forall₂ (forall₂_of_mapM hattributes) fun _ _ => holds_of_attributeOf⟩,
    rfl, hentry⟩

/-- A text that is accepted gives one well-formed declaration for every element of its listing,
with the content that is written there, and types that the listing declares. A text is refused if
any part of the content of any element has a maximum below its minimum, unless the maximum is the
zero that stands for any number. -/
theorem declarations_of_accepted_text (s : String) :
    (∀ c, ofText s = .ok c → ∃ l, Listing.ofText s = .ok l ∧
      List.Forall₂ Renders l.elements c.declarations ∧
      (∀ x ∈ c.types, Declares l.types x) ∧ ∀ d ∈ c.declarations, c.WellFormed d) ∧
    ∀ l, Listing.ofText s = .ok l → ∀ e ∈ l.elements, ∀ content ∈ e.content,
      ∀ part ∈ content.parts, 0 < part.max → part.max < part.min → ∃ f, ofText s = .error f := by
  refine ⟨fun c h => ?_, fun l hl e he content hcontent part hpart hmax hmin => ?_⟩
  · obtain ⟨l, hl, hlisting⟩ := bind_eq_ok_iff.mp h
    obtain ⟨-, -, hds⟩ := ofListing_eq_ok hlisting
    exact ⟨l, hl, hds.imp fun e d hd => (declarationOf_wellFormed hd).2,
      declares_ofListing hlisting,
      forall_mem_of_forall₂ hds fun e d hd => (declarationOf_wellFormed hd).1⟩
  · cases hs : ofText s with
    | error f => exact ⟨f, rfl⟩
    | ok c =>
        -- the element would have a model that is written with the part
        obtain ⟨l', hl', hlisting⟩ := bind_eq_ok_iff.mp hs
        obtain rfl := Except.ok.inj (hl.symm.trans hl')
        obtain ⟨-, -, hds⟩ := ofListing_eq_ok hlisting
        obtain ⟨d, -, hd⟩ := exists_related_of_mem hds he
        obtain ⟨hformed, hrenders⟩ := declarationOf_wellFormed hd
        obtain ⟨p, hp, rfl⟩ := Option.map_eq_some_iff.mp (hrenders.content.trans hcontent)
        obtain ⟨q, hq, rfl⟩ := (hformed.bound p hp).of_mem_parts hpart
        exact absurd ⟨hmax, hmin⟩ hq.not_inverted

/-- A listing with a text leaf and a paragraph, whose runs have the bounds that are given. -/
def paragraphText (bounds : String) : List Char :=
  ["\x7b\"simpleTypes\":\x7b\"ST_Jc\":\x7b\"base\":\"token\"\x7d\x7d,", "\"elements\":[",
    "\x7b\"name\":\"w:t\",\"kind\":\"text\",\"text\":\"string\"\x7d,",
    "\x7b\"name\":\"w:p\",\"content\":\x7b\"type\":\"sequence\",",
    "\"children\":[\x7b\"element\":\"w:pPr\",\"min\":0\x7d,",
    "\x7b\"type\":\"choice\",\"min\":0,\"max\":0,\"children\":[", "\x7b\"element\":\"w:r\",",
    bounds, ",\"since\":\"Office2010\"\x7d]\x7d]\x7d,",
    "\"attributes\":[\x7b\"name\":\"w14:jc\",\"type\":\"ST_Jc\"\x7d]\x7d]\x7d"].flatMap
    String.toList

def paragraphListing (bounds : String) : String := String.ofList (paragraphText bounds)

theorem toList_paragraphListing (bounds : String) :
    (paragraphListing bounds).toList = paragraphText bounds := String.toList_ofList

theorem declarations_of_accepted_text_paragraph :
    (∃ c, ofText (paragraphListing "\"min\":3,\"max\":0") = .ok c ∧
      c.declarations.map (fun d => d.content.map Particle.text) =
        [none, some "sequence[1..1](w:pPr[0..1],choice[0..*](w:r[3..*]@Office2010))"] ∧
      ∀ d ∈ c.declarations, c.WellFormed d) ∧
    ∃ f, ofText (paragraphListing "\"min\":3,\"max\":2") = .error f := by
  constructor
  · have h : (ofText (paragraphListing "\"min\":3,\"max\":0")).toOption.map
        (fun c => c.declarations.map (fun d => d.content.map Particle.text)) =
        some [none, some "sequence[1..1](w:pPr[0..1],choice[0..*](w:r[3..*]@Office2010))"] := by
      rw [ofText, Listing.ofText, Json.ofText?, toList_paragraphListing]
      decide +kernel
    obtain ⟨c, hc, htexts⟩ := Option.map_eq_some_iff.mp h
    have hok := eq_ok_of_toOption hc
    obtain ⟨-, -, -, -, hformed⟩ := (declarations_of_accepted_text _).1 c hok
    exact ⟨c, hok, htexts, hformed⟩
  · have h : ((Listing.ofText (paragraphListing "\"min\":3,\"max\":2")).toOption.any fun l =>
        l.elements.any fun e => e.content.any fun content =>
          content.parts.any fun part => 0 < part.max && part.max < part.min) = true := by
      rw [Listing.ofText, Json.ofText?, toList_paragraphListing]
      decide +kernel
    simp only [Option.any_eq_true, List.any_eq_true, Bool.and_eq_true, decide_eq_true_eq] at h
    obtain ⟨l, hl, e, he, content, hcontent, part, hpart, hmax, hmin⟩ := h
    exact (declarations_of_accepted_text _).2 l (eq_ok_of_toOption hl) e he content hcontent part
      hpart hmax hmin

end Catalog

end OfficeSchema
