import Mathlib.Algebra.Order.Field.Rat
import Mathlib.Data.List.Perm.Basic
import Mathlib.Tactic.Positivity
import OfficeSchema.Proofs.Text.Words
import OfficeSchema.Proofs.Validation.Passes

namespace OfficeSchema

namespace Decimal

def toRat (d : Decimal) : ℚ :=
  (if d.isNegative then -(d.mantissa : ℚ) else d.mantissa) / 10 ^ d.scale

theorem scaledTo_eq {d : Decimal} {places : Nat} (h : d.scale ≤ places) :
    (d.scaledTo places : ℚ) = d.toRat * 10 ^ places := by
  have hpow : (10 : ℚ) ^ places = 10 ^ (places - d.scale) * 10 ^ d.scale := by
    rw [← pow_add, Nat.sub_add_cancel h]
  have hten : (Numeral.tenTo (places - d.scale) : ℚ) = 10 ^ (places - d.scale) := by
    simp [Numeral.tenTo]
  have hne : (10 : ℚ) ^ d.scale ≠ 0 := by positivity
  rw [toRat, hpow, mul_comm _ ((10 : ℚ) ^ d.scale), ← mul_assoc, div_mul_cancel₀ _ hne, scaledTo]
  split <;> simp [hten]

theorem isBelow_iff (a b : Decimal) : a.isBelow b = true ↔ a.toRat < b.toRat := by
  have hpos : (0 : ℚ) < 10 ^ max a.scale b.scale := by positivity
  rw [isBelow, compare, beq_iff_eq, Int.compare_eq_lt, ← Int.cast_lt (R := ℚ),
    scaledTo_eq (le_max_left _ _), scaledTo_eq (le_max_right _ _), mul_lt_mul_iff_left₀ hpos]

theorem toRat_ofInt (i : Int) : (ofInt i).toRat = i := by
  have habs : ((i.natAbs : Int) : ℚ) = |(i : ℚ)| := by rw [Int.natCast_natAbs, Int.cast_abs]
  rw [Int.cast_natCast] at habs
  rcases lt_or_ge i 0 with h | h
  · have hneg : (i : ℚ) ≤ 0 := by exact_mod_cast h.le
    simp [toRat, ofInt, make, h, h.ne, habs, abs_of_nonpos hneg]
  · have hpos : (0 : ℚ) ≤ i := by exact_mod_cast h
    simp [toRat, ofInt, make, not_lt.mpr h, habs, abs_of_nonneg hpos]

end Decimal

def Item.rational? : Item → Option ℚ
  | .integer i => some i
  | .decimal d => some d.toRat
  | _ => none

theorem Item.rational?_eq (i : Item) : i.rational? = i.number?.map Decimal.toRat := by
  cases i <;> simp [rational?, number?, Decimal.toRat_ofInt]

def Primitive.IsBinary (p : Primitive) : Prop := p = .hexBinary ∨ p = .base64Binary

theorem Primitive.isBinary_iff {p : Primitive} {s : String} {i : Item} (h : p.parse s = some i) :
    p.IsBinary ↔ ∃ b, i = .bytes b := by
  cases p with
  | string | token =>
      obtain rfl := Option.some.inj h
      simp [IsBinary]
  | decimal =>
      simp only [parse] at h
      split at h
      · simp at h
      · obtain ⟨x, -, rfl⟩ := Option.map_eq_some_iff.mp h
        simp [IsBinary]
  | _ =>
      obtain ⟨x, -, rfl⟩ := Option.map_eq_some_iff.mp h
      simp [IsBinary]

namespace SimpleType

/-- The values that a text spells. -/
inductive Reads (t : SimpleType) (raw : String) : List Item → Prop
  | atomic {i : Item} (h : t.variety = .atomic) (hi : t.primitive.parse (t.lexical raw) = some i) :
      Reads t raw [i]
  | list {is : List Item} (h : t.variety = .list)
      (his : List.Forall₂ (fun w i => t.primitive.parse (String.ofList w) = some i)
        (Text.words raw.toList) is) : Reads t raw is

inductive Measures (t : SimpleType) (raw : String) (is : List Item) : Nat → Prop
  | items (h : t.variety = .list) : Measures t raw is is.length
  | bytes {b : List UInt8} (h : t.variety = .atomic) (hp : t.primitive.IsBinary)
      (hb : is = [.bytes b]) : Measures t raw is b.length
  | characters (h : t.variety = .atomic) (hp : ¬t.primitive.IsBinary) :
      Measures t raw is (t.lexical raw).toList.length

variable {t : SimpleType} {raw : String} {is : List Item} {k : Nat}

theorem itemsOf_eq_some_iff {p : Primitive} {ws : List (List Char)} :
    itemsOf p ws = some is ↔
      List.Forall₂ (fun w i => p.parse (String.ofList w) = some i) ws is := by
  induction ws generalizing is with
  | nil => simp [itemsOf, eq_comm]
  | cons w ws ih =>
      rw [List.forall₂_cons_left_iff]
      simp only [← ih, itemsOf]
      cases p.parse (String.ofList w) with
      | none => simp
      | some i => cases itemsOf p ws <;> simp [eq_comm]

theorem spaced_lexical (h : t.variety = .list) (raw : String) :
    Text.spaced (t.lexical raw).toList = Text.words raw.toList := by
  simp [lexical, h, Text.spaced_collapse]

theorem reads_iff (t : SimpleType) (raw : String) (is : List Item) :
    t.Reads raw is ↔ (t.parse raw).isValid = true ∧ (t.parse raw).items = is := by
  have hsome (o : Option (List Item)) : o.isSome = true ∧ o.getD [] = is ↔ o = some is := by
    cases o <;> simp
  rw [parse, hsome]
  constructor
  · intro h
    cases h with
    | atomic h hi => simp [h, hi]
    | list h his =>
        rw [← spaced_lexical h, ← itemsOf_eq_some_iff] at his
        simp [h, his]
  · intro h
    cases hv : t.variety with
    | atomic =>
        simp only [hv] at h
        obtain ⟨i, hi, rfl⟩ := Option.map_eq_some_iff.mp h
        exact .atomic hv hi
    | list =>
        simp only [hv] at h
        rw [spaced_lexical hv, itemsOf_eq_some_iff] at h
        exact .list hv h

theorem isValid_list_iff (h : t.variety = .list) (raw : String) : (t.parse raw).isValid = true ↔
    ∀ w ∈ Text.words raw.toList, (t.primitive.parse (String.ofList w)).isSome = true := by
  have hitems (ws : List (List Char)) : (itemsOf t.primitive ws).isSome = true ↔
      ∀ w ∈ ws, (t.primitive.parse (String.ofList w)).isSome = true := by
    induction ws with
    | nil => simp [itemsOf]
    | cons w ws ih =>
        rw [List.forall_mem_cons, ← ih, itemsOf]
        cases t.primitive.parse (String.ofList w) with
        | none => simp
        | some i => cases itemsOf t.primitive ws <;> simp
  rw [← hitems, ← spaced_lexical h, parse, h]

theorem Measures.unique {l : Nat} (hk : t.Measures raw is k) (hl : t.Measures raw is l) :
    k = l := by
  cases hk with
  | items h => cases hl with
    | items => rfl
    | bytes h' => simp [h] at h'
    | characters h' => simp [h] at h'
  | bytes h hp hb => cases hl with
    | items h' => simp [h] at h'
    | bytes _ _ hb' =>
        obtain ⟨rfl⟩ := hb.symm.trans hb'
        rfl
    | characters _ hp' => exact absurd hp hp'
  | characters h hp => cases hl with
    | items h' => simp [h] at h'
    | bytes _ hp' => exact absurd hp' hp
    | characters => rfl

theorem measures_length (h : t.Reads raw is) :
    t.Measures raw is ((t.parse raw).length t.variety) := by
  have hitems := ((reads_iff t raw is).mp h).2
  cases h with
  | list hv his =>
      have hlength : (t.parse raw).length t.variety = is.length := by
        rw [hv, Parsed.length, hitems]
      exact hlength ▸ .items hv
  | @atomic i hv hi =>
      have hbinary := Primitive.isBinary_iff hi
      by_cases hp : t.primitive.IsBinary
      · obtain ⟨b, rfl⟩ := hbinary.mp hp
        have hlength : (t.parse raw).length t.variety = b.length := by
          rw [hv, Parsed.length, hitems]
        exact hlength ▸ .bytes hv hp rfl
      · have hlength : (t.parse raw).length t.variety = (t.lexical raw).toList.length := by
          rw [hv, Parsed.length, hitems]
          cases i with
          | bytes b => exact absurd (hbinary.mpr ⟨b, rfl⟩) hp
          | _ => rfl
        exact hlength ▸ .characters hv hp

end SimpleType

/-- Why a facet excludes a text that was read as some values. -/
inductive Facet.Excludes (t : SimpleType) (raw : String) (is : List Item) : Facet → Prop
  | length {n k : Nat} (hk : t.Measures raw is k) (h : k ≠ n) : Excludes t raw is (.length n)
  | minLength {n k : Nat} (hk : t.Measures raw is k) (h : k < n) : Excludes t raw is (.minLength n)
  | maxLength {n k : Nat} (hk : t.Measures raw is k) (h : n < k) : Excludes t raw is (.maxLength n)
  | pattern {p : Pattern} (h : p.matchesText (t.lexical raw) = false) : Excludes t raw is (.pattern p)
  | minInclusive {d : Decimal} {i : Item} {x : ℚ} (hi : i ∈ is) (hx : i.rational? = some x)
      (h : x < d.toRat) : Excludes t raw is (.minInclusive d)
  | maxInclusive {d : Decimal} {i : Item} {x : ℚ} (hi : i ∈ is) (hx : i.rational? = some x)
      (h : d.toRat < x) : Excludes t raw is (.maxInclusive d)
  | enumeration {allowed : List String} (hv : t.variety = .atomic)
      (h : t.lexical raw ∉ allowed) : Excludes t raw is (.enumeration allowed)
  | wordEnumeration {allowed : List String} {w : List Char} (hv : t.variety = .list)
      (hw : w ∈ Text.words raw.toList) (h : String.ofList w ∉ allowed) :
      Excludes t raw is (.enumeration allowed)

namespace Facet

variable {t : SimpleType} {raw : String} {is : List Item}

theorem exists_number_iff (h : t.Reads raw is) (P : ℚ → Prop) :
    (∃ d ∈ (t.parse raw).numbers, P d.toRat) ↔ ∃ i ∈ is, ∃ x, i.rational? = some x ∧ P x := by
  simp only [Parsed.numbers, ((SimpleType.reads_iff t raw is).mp h).2, List.mem_filterMap,
    Item.rational?_eq, Option.map_eq_some_iff]
  constructor
  · rintro ⟨d, ⟨i, hi, hd⟩, hP⟩
    exact ⟨i, hi, _, ⟨d, hd, rfl⟩, hP⟩
  · rintro ⟨i, hi, _, ⟨d, hd, rfl⟩, hP⟩
    exact ⟨d, ⟨i, hi, hd⟩, hP⟩

theorem isViolated_enumeration_iff (allowed : List String) :
    (enumeration allowed).isViolated t.variety (t.parse raw) = true ↔
      (enumeration allowed).Excludes t raw is := by
  cases hv : t.variety with
  | atomic =>
      simp only [isViolated, Bool.not_eq_true', List.contains_eq_mem, decide_eq_false_iff_not]
      constructor
      · exact fun hnot => .enumeration hv hnot
      · intro hx
        cases hx with
        | enumeration _ hnot => exact hnot
        | wordEnumeration hlist => simp [hv] at hlist
  | list =>
      have hwords : Text.spaced (t.parse raw).lexical.toList = Text.words raw.toList :=
        SimpleType.spaced_lexical hv raw
      simp only [isViolated, hwords, List.any_eq_true, Bool.not_eq_true', List.contains_eq_mem,
        decide_eq_false_iff_not]
      constructor
      · rintro ⟨w, hw, hnot⟩
        exact .wordEnumeration hv hw hnot
      · intro hx
        cases hx with
        | enumeration hatomic => simp [hv] at hatomic
        | wordEnumeration _ hw hnot => exact ⟨_, hw, hnot⟩

theorem isViolated_iff (h : t.Reads raw is) (facet : Facet) :
    facet.isViolated t.variety (t.parse raw) = true ↔ facet.Excludes t raw is := by
  have hlength := SimpleType.measures_length h
  cases facet with
  | length n =>
      rw [isViolated, bne_iff_ne]
      refine ⟨fun hn => .length hlength hn, fun hx => ?_⟩
      cases hx with
      | length hk hn => exact hk.unique hlength ▸ hn
  | minLength n =>
      rw [isViolated, decide_eq_true_eq]
      refine ⟨fun hn => .minLength hlength hn, fun hx => ?_⟩
      cases hx with
      | minLength hk hn => exact hk.unique hlength ▸ hn
  | maxLength n =>
      rw [isViolated, decide_eq_true_eq]
      refine ⟨fun hn => .maxLength hlength hn, fun hx => ?_⟩
      cases hx with
      | maxLength hk hn => exact hk.unique hlength ▸ hn
  | pattern p =>
      rw [isViolated, Bool.not_eq_true']
      refine ⟨fun hp => .pattern hp, fun hx => ?_⟩
      cases hx with
      | pattern hp => exact hp
  | minInclusive d =>
      rw [isViolated, List.any_eq_true]
      simp only [Decimal.isBelow_iff]
      rw [exists_number_iff h (fun x => x < d.toRat)]
      refine ⟨fun ⟨i, hi, x, hx, hlt⟩ => .minInclusive hi hx hlt, fun hx => ?_⟩
      cases hx with
      | minInclusive hi hx hlt => exact ⟨_, hi, _, hx, hlt⟩
  | maxInclusive d =>
      rw [isViolated, List.any_eq_true]
      simp only [Decimal.isBelow_iff]
      rw [exists_number_iff h (fun x => d.toRat < x)]
      refine ⟨fun ⟨i, hi, x, hx, hlt⟩ => .maxInclusive hi hx hlt, fun hx => ?_⟩
      cases hx with
      | maxInclusive hi hx hlt => exact ⟨_, hi, _, hx, hlt⟩
  | enumeration allowed => exact isViolated_enumeration_iff allowed

theorem perm_byClass (facets : List Facet) (P : Facet → Bool) :
    (FacetClass.all.flatMap (fun c =>
      facets.filter (fun facet => facet.facetClass == c && P facet))).Perm (facets.filter P) := by
  induction facets with
  | nil => exact .refl _
  | cons facet facets ih =>
      have hcons : FacetClass.all.flatMap (fun c =>
            (facet :: facets).filter (fun facet => facet.facetClass == c && P facet)) =
          FacetClass.all.flatMap (fun c => (if facet.facetClass == c && P facet then [facet] else []) ++
            facets.filter (fun facet => facet.facetClass == c && P facet)) := by
        congr 1
        funext c
        rw [List.filter_cons]
        split <;> rfl
      have hown : FacetClass.all.flatMap (fun c =>
          if facet.facetClass == c && P facet then [facet] else []) = [facet].filter P := by
        cases hP : P facet <;> cases facet.facetClass <;> simp [hP, FacetClass.all]
      rw [hcons, List.filter_cons]
      refine (List.flatMap_append_perm _ _ _).symm.trans ?_
      rw [hown]
      refine (List.Perm.append_left _ ih).trans (.of_eq ?_)
      cases hP : P facet <;> simp [hP]

end Facet

theorem Defect.emptyNote_eq (holder : Holder) (raw : String) : Defect.emptyNote holder raw =
    if raw = "" then
      if holder.isAttribute then " The attribute value cannot be empty."
      else " The text value cannot be empty."
    else "" := by
  rw [emptyNote]
  by_cases hraw : raw = ""
  · simp only [hraw, bne_self_eq_false, Bool.false_eq_true, if_false, if_true]
  · simp only [bne_iff_ne, ne_eq, hraw, not_false_eq_true, if_true, if_false]

theorem Defect.description_invalidValue (holder : Holder) (raw : String) :
    (Defect.invalidValue holder raw).description =
      s!"The {holder.text} has invalid value '{raw}'." ++ emptyNote holder raw := rfl

namespace ValueFrame

variable {f : ValueFrame}

theorem findings_of_invalid (h : f.value.isValid = false) :
    f.findings = [.ofDefect f.node (.invalidValue f.holder f.value.raw)] := by
  rw [findings, defects, if_neg (by simp [h]), List.map_singleton]

theorem findings_perm (h : f.value.isValid = true) : f.findings.Perm
    ((f.type.facets.filter (fun facet => facet.isViolated f.type.variety f.value)).map (fun facet =>
      .ofDefect f.node (.facetViolated f.holder f.value.raw facet
        (f.value.length f.type.variety)))) := by
  rw [findings, defects, if_pos h, List.map_map, violations]
  exact (Facet.perm_byClass f.type.facets _).map _

end ValueFrame

open Classical in
/-- The check of a value. A text that is no value is found once, under a rule of its own; a value is
found once for every facet that excludes it. -/
theorem checkValue_findings (c : Context) (name : String) (t : SimpleType) (raw : String)
    (isAttribute : Bool) (node : NodeRef) :
    let f := ValueFrame.ofRaw name t raw isAttribute node
    let p := t.parse raw
    let holder : Holder := ⟨isAttribute, name⟩
    (c.push f).checkValue = (c.push f).reportAll f.findings ∧
    (∀ is, t.Reads raw is ↔ p.isValid = true ∧ p.items = is) ∧
    (t.variety = .list → (p.isValid = true ↔
      ∀ w ∈ Text.words raw.toList, (t.primitive.parse (String.ofList w)).isSome = true)) ∧
    (p.isValid = false → ∃ d : Defect, f.findings = [.ofDefect node d] ∧
      d.rule = (if holder.isAttribute then "Sch_AttributeValueDataTypeDetailed"
        else "Sch_ElementValueDataTypeDetailed") ∧
      d.description = s!"The {holder.text} has invalid value '{raw}'." ++
        if raw = "" then
          if holder.isAttribute then " The attribute value cannot be empty."
          else " The text value cannot be empty."
        else "") ∧
    (p.isValid = true → f.findings.Perm
      ((t.facets.filter (fun facet => facet.Excludes t raw p.items)).map (fun facet =>
        .ofDefect node (.facetViolated holder raw facet (p.length t.variety))))) := by
  intro f p holder
  refine ⟨Context.checkValue_of_current? rfl, SimpleType.reads_iff t raw,
    fun hv => SimpleType.isValid_list_iff hv raw,
    fun hp => ⟨.invalidValue holder raw, ?_, rfl, ?_⟩, fun hp => ?_⟩
  · exact ValueFrame.findings_of_invalid hp
  · rw [Defect.description_invalidValue, Defect.emptyNote_eq]
  · have hreads : t.Reads raw p.items := (SimpleType.reads_iff t raw _).mpr ⟨hp, rfl⟩
    have hexcluded : t.facets.filter (fun facet => facet.isViolated t.variety p) =
        t.facets.filter (fun facet => facet.Excludes t raw p.items) := by
      apply List.filter_congr
      intro facet _
      rw [Bool.eq_iff_iff, Facet.isViolated_iff hreads, decide_eq_true_eq]
    rw [← hexcluded]
    exact ValueFrame.findings_perm hp

theorem checkValue_findings_crowded_list :
    let t : SimpleType := ⟨"t", .integer, .list, [.maxInclusive (.ofInt 10), .minLength 3]⟩
    let node : NodeRef := ⟨[], ⟨"p", 1⟩, none⟩
    t.variety = .list ∧ (t.parse " 4  12 ").isValid = true ∧ (t.parse "4 x").isValid = false ∧
      (∀ facet ∈ t.facets, facet.Excludes t " 4  12 " (t.parse " 4  12 ").items) ∧
      ∃ d, (ValueFrame.ofRaw "a" t "4 x" true node).findings = [.ofDefect node d] ∧
        d.rule = "Sch_AttributeValueDataTypeDetailed" := by
  intro t node
  have hcheck := checkValue_findings (.start ⟨.office2007, .empty, []⟩ 0) "a" t
  have hvalid : (t.parse " 4  12 ").isValid = true :=
    ((hcheck " 4  12 " true node).2.2.1 rfl).mpr (by decide +kernel)
  have hinvalid : (t.parse "4 x").isValid = false := by decide +kernel
  have hperm := (hcheck " 4  12 " true node).2.2.2.2 hvalid
  obtain ⟨d, hd, hrule, -⟩ := (hcheck "4 x" true node).2.2.2.1 hinvalid
  refine ⟨rfl, hvalid, hinvalid, ?_, d, hd, hrule⟩
  -- as many findings as facets, so that none was left out
  have hlength := hperm.length_eq
  rw [List.length_map] at hlength
  have hall := List.length_filter_eq_length_iff.mp (hlength.symm.trans (by decide +kernel))
  simpa using hall

end OfficeSchema
