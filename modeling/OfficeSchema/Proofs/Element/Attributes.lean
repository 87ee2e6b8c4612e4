import OfficeSchema.Document
import OfficeSchema.Proofs.Attempts

namespace OfficeSchema

variable {a b : Attribute} {bs : List Attribute}

namespace Attribute

def isNamesake (a b : Attribute) : Bool := b.answers a.namespaceId a.localName

theorem replaces_iff : a.replaces b = true ↔
    a.namespaceId = b.namespaceId ∧ a.address = b.address ∧ a.localName = b.localName := by
  simp [replaces, and_assoc]

theorem answers_iff {id : Option Nat} {name : String} : a.answers id name = true ↔
    a.namespaceId = id ∧ a.localName = name ∧ a.isExtension = false := by
  simp [answers, and_assoc]

theorem isNamesake_self (ha : a.isExtension = false) : a.isNamesake a = true :=
  answers_iff.mpr ⟨rfl, rfl, ha⟩

theorem answers_of_replaces (h : a.replaces b = true) (id : Option Nat) (name : String) :
    b.answers id name = a.answers id name := by
  obtain ⟨hid, haddress, hname⟩ := replaces_iff.mp h
  simp only [answers, isExtension, hid, haddress, hname]

theorem replaces_iff_of_isNamesake (h : a.isNamesake b = true) :
    a.replaces b = true ↔ b.address = a.address := by
  obtain ⟨hid, hname, -⟩ := answers_iff.mp h
  rw [replaces_iff]
  constructor
  · exact fun h => h.2.1.symm
  · exact fun h => ⟨hid.symm, h.symm, hname.symm⟩

end Attribute

namespace Element

open Attribute

theorem placeAttribute_cases (a : Attribute) (bs : List Attribute) :
    (∀ b ∈ bs, a.replaces b = false) ∧ placeAttribute a bs = bs ++ [a] ∨
      ∃ front b back, bs = front ++ b :: back ∧ (∀ c ∈ front, a.replaces c = false) ∧
        a.replaces b = true ∧ placeAttribute a bs = front ++ a :: back := by
  induction bs with
  | nil => exact .inl ⟨by simp, rfl⟩
  | cons b bs ih =>
      rw [placeAttribute]
      split
      · next hb => exact .inr ⟨[], b, bs, rfl, by simp, hb, rfl⟩
      · next hb =>
          rw [Bool.not_eq_true] at hb
          rcases ih with ⟨hnone, heq⟩ | ⟨front, c, back, rfl, hfront, hc, heq⟩
          · exact .inl ⟨List.forall_mem_cons.mpr ⟨hb, hnone⟩, by rw [heq, List.cons_append]⟩
          · exact .inr ⟨b :: front, c, back, rfl, List.forall_mem_cons.mpr ⟨hb, hfront⟩, hc, by
              rw [heq, List.cons_append]⟩

theorem attribute?_setAttribute_of_ne (e : Element) (a : Attribute) {id : Option Nat}
    {name : String} (h : a.answers id name = false) :
    (e.setAttribute a).attribute? id name = e.attribute? id name := by
  rw [attribute?, attribute?, setAttribute]
  rcases placeAttribute_cases a e.attributes with ⟨-, heq⟩ | ⟨front, b, back, hbs, -, hb, heq⟩
  · rw [heq, List.find?_append]
    simp [h]
  · have hnot : b.answers id name = false := by rw [answers_of_replaces hb, h]
    rw [heq, hbs, List.find?_append, List.find?_append, List.find?_cons_of_neg (by simp [h]),
      List.find?_cons_of_neg (by simp [hnot])]

theorem address_ne_of_find? (hbs : ∀ b ∈ bs, a.replaces b = false)
    (hb : bs.find? a.isNamesake = some b) : b.address ≠ a.address := by
  intro haddress
  have hreplaced := (replaces_iff_of_isNamesake (List.find?_some hb)).mpr haddress
  rw [hbs b (List.mem_of_find?_eq_some hb)] at hreplaced
  exact Bool.false_ne_true hreplaced

theorem attribute?_setAttribute (ha : a.isExtension = false) (e : Element) :
    (e.setAttribute a).attribute? a.namespaceId a.localName =
      match e.attribute? a.namespaceId a.localName with
      | none => some a
      | some b => if b.address = a.address then some a else some b := by
  have hself := isNamesake_self ha
  change (placeAttribute a e.attributes).find? a.isNamesake =
    match e.attributes.find? a.isNamesake with
    | none => some a
    | some b => if b.address = a.address then some a else some b
  rcases placeAttribute_cases a e.attributes with
    ⟨hnone, heq⟩ | ⟨front, b, back, hbs, hfront, hb, heq⟩
  · rw [heq, List.find?_append]
    cases hf : e.attributes.find? a.isNamesake with
    | none => simp [hself]
    | some c => simp [address_ne_of_find? hnone hf]
  · rw [heq, hbs, List.find?_append, List.find?_append]
    cases hf : front.find? a.isNamesake with
    | none =>
        have hnamesake : a.isNamesake b = true := (answers_of_replaces hb _ _).trans hself
        have haddress := (replaces_iff_of_isNamesake hnamesake).mp hb
        simp [hself, hnamesake, haddress]
    | some c => simp [address_ne_of_find? hfront hf]

def namesakes (e : Element) (a : Attribute) : Nat := e.attributes.countP a.isNamesake

theorem namesakes_eq_zero_iff {e : Element} :
    e.namesakes a = 0 ↔ e.attribute? a.namespaceId a.localName = none := by
  rw [namesakes, List.countP_eq_zero]
  exact List.find?_eq_none.symm

theorem namesakes_setAttribute (ha : a.isExtension = false) {e : Element}
    (h : e.namesakes a ≤ 1) : (e.setAttribute a).namesakes a =
      match e.attribute? a.namespaceId a.localName with
      | none => 1
      | some b => if b.address = a.address then 1 else 2 := by
  have hself := isNamesake_self ha
  rcases placeAttribute_cases a e.attributes with
    ⟨hnone, heq⟩ | ⟨front, b, back, hbs, -, hb, heq⟩
  · have hcount : (e.setAttribute a).namesakes a = e.namesakes a + 1 := by
      rw [namesakes, setAttribute, heq, List.countP_append]
      simp [namesakes, hself]
    cases hf : e.attribute? a.namespaceId a.localName with
    | none => rw [hcount, namesakes_eq_zero_iff.mpr hf]
    | some c =>
        have hpos : e.namesakes a ≠ 0 := by
          rw [Ne, namesakes_eq_zero_iff, hf]
          exact Option.some_ne_none c
        simp only [address_ne_of_find? hnone hf, if_false]
        omega
  · have hnamesake : a.isNamesake b = true := (answers_of_replaces hb _ _).trans hself
    have haddress := (replaces_iff_of_isNamesake hnamesake).mp hb
    have hcount : (e.setAttribute a).namesakes a = e.namesakes a := by
      rw [namesakes, namesakes, setAttribute, heq, hbs, List.countP_append, List.countP_append,
        List.countP_cons, List.countP_cons, hself, hnamesake]
    rw [namesakes, hbs, List.countP_append, List.countP_cons_of_pos hnamesake] at h
    -- the one that is replaced is the only namesake, so it is the one that was found
    have hf : front.find? a.isNamesake = none :=
      List.find?_eq_none.mpr (List.countP_eq_zero.mp (by omega))
    have hfound : e.attribute? a.namespaceId a.localName = some b := by
      change e.attributes.find? a.isNamesake = some b
      rw [hbs, List.find?_append, hf, Option.none_or, List.find?_cons_of_pos hnamesake]
    rw [hcount, hfound, namesakes, hbs, List.countP_append, List.countP_cons_of_pos hnamesake]
    simp only [haddress, if_true]
    omega

/-- The attribute that is found where an attribute is about to be set, if there is one, has the
address of that attribute. -/
def Accords (e : Element) (a : Attribute) : Prop :=
  ∀ b ∈ e.attribute? a.namespaceId a.localName, b.address = a.address

/-- Setting an attribute takes effect exactly if it accords with the one that was found before; what
is found elsewhere does not change in any case. -/
theorem setAttribute_takes_effect_iff (e : Element) (a : Attribute) (ha : a.isExtension = false) :
    (∀ id name, (id, name) ≠ (a.namespaceId, a.localName) →
      (e.setAttribute a).attribute? id name = e.attribute? id name) ∧
    ((e.setAttribute a).attribute? a.namespaceId a.localName = some a ↔ e.Accords a) ∧
    (¬e.Accords a → (e.setAttribute a).attribute? a.namespaceId a.localName =
      e.attribute? a.namespaceId a.localName) ∧
    (e.namesakes a ≤ 1 → ((e.setAttribute a).namesakes a ≤ 1 ↔ e.Accords a)) := by
  refine ⟨fun id name hne => ?_, ?_, fun hnot => ?_, fun hone => ?_⟩
  · apply attribute?_setAttribute_of_ne
    rw [Bool.eq_false_iff]
    intro h
    obtain ⟨rfl, rfl, -⟩ := answers_iff.mp h
    exact hne rfl
  · rw [attribute?_setAttribute ha, Accords]
    cases e.attribute? a.namespaceId a.localName with
    | none => simp
    | some b =>
        by_cases hb : b.address = a.address
        · simp [hb]
        · have hne : b ≠ a := by
            rintro rfl
            exact hb rfl
          simp [hb, hne]
  · rw [attribute?_setAttribute ha]
    rw [Accords] at hnot
    cases hb : e.attribute? a.namespaceId a.localName with
    | none => simp [hb] at hnot
    | some b =>
        have hne : b.address ≠ a.address := by simpa [hb] using hnot
        simp [hne]
  · rw [namesakes_setAttribute ha hone, Accords]
    cases e.attribute? a.namespaceId a.localName with
    | none => simp
    | some b =>
        by_cases hb : b.address = a.address
        · simp [hb]
        · simp [hb]

theorem setAttribute_takes_effect_iff_same_address : ∃ (e : Element) (a : Attribute),
    a.isExtension = false ∧ e.attributes.map Attribute.name = ["x:id", "id", "w:id"] ∧
      e.value? a.namespaceId a.localName = some "1" ∧
      (e.setAttribute a).attribute? a.namespaceId a.localName = some a ∧
      (e.setAttribute a).attribute? none "id" = e.attribute? none "id" ∧
      (e.setAttribute a).namesakes a ≤ 1 := by
  let a : Attribute := ⟨some "v", "id", some 23, some "urn:w", "2"⟩
  let e : Element := { ofNode (.unknown "x" none) with
    attributes := [⟨some "x", "id", none, some "urn:x", "0"⟩, ⟨none, "id", none, none, "0"⟩,
      ⟨some "w", "id", some 23, some "urn:w", "1"⟩] }
  have haccords : e.Accords a := by
    intro b hb
    obtain rfl : b = ⟨some "w", "id", some 23, some "urn:w", "1"⟩ := Option.some.inj hb.symm
    rfl
  obtain ⟨hothers, hfound, -, hone⟩ := setAttribute_takes_effect_iff e a rfl
  exact ⟨e, a, rfl, rfl, rfl, hfound.mpr haccords, hothers none "id" (by simp [a]),
    (hone (by decide)).mpr haccords⟩

theorem setAttribute_behind_read_one : ∃ (r : Registry) (e : Element) (a : Attribute),
    Document.parse r "<x xml:space='default'/>" = .ok e ∧ a.isExtension = false ∧
      e.namesakes a = 1 ∧ (e.setAttribute a).namesakes a = 2 ∧
      (e.setAttribute a).attribute? a.namespaceId a.localName ≠ some a ∧
      (e.setAttribute a).value? a.namespaceId a.localName = some "default" := by
  let r : Registry := ⟨.office2007, .standard, []⟩
  let a : Attribute := ⟨some "xml", "space", some 2, none, "preserve"⟩
  have h : ((Document.parse r "<x xml:space='default'/>").toOption.map fun e =>
      (e.namesakes a, (e.setAttribute a).namesakes a,
        (e.setAttribute a).value? a.namespaceId a.localName)) = some (1, 2, some "default") := by
    decide +kernel
  obtain ⟨e, he, h⟩ := Option.map_eq_some_iff.mp h
  simp only [Prod.mk.injEq] at h
  obtain ⟨hbefore, hafter, hvalue⟩ := h
  refine ⟨r, e, a, eq_ok_of_toOption he, rfl, hbefore, hafter, fun hfound => ?_, hvalue⟩
  rw [value?, hfound] at hvalue
  exact absurd hvalue (by decide)

end Element

end OfficeSchema
