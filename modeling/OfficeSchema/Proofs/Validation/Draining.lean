import OfficeSchema.Proofs.Validation.Ledger
import OfficeSchema.Validator

namespace OfficeSchema

theorem flatMap_eq_flatMap_filter {α β : Type} {P : α → Bool} {f g : α → List β} {l : List α}
    (hkeep : ∀ a ∈ l, P a = true → f a = g a) (hdrop : ∀ a ∈ l, ¬P a = true → f a = []) :
    l.flatMap f = (l.filter P).flatMap g := by
  induction l with
  | nil => rfl
  | cons a l ih =>
      have hl := ih (fun b hb => hkeep b (List.mem_cons_of_mem a hb))
        (fun b hb => hdrop b (List.mem_cons_of_mem a hb))
      cases ha : P a with
      | true => simp [ha, hl, hkeep a List.mem_cons_self ha]
      | false => simp [ha, hl, hdrop a List.mem_cons_self (by simp [ha])]

namespace Inquiry

variable {q p : Inquiry} {f : Finding} {ts : List Target} {asked : List String}

theorem targetFindings_eq (r : Registry) (k : Option Package) (budget : Nat) (t : Target) :
    targetFindings r k budget t = firstOf budget (targetFindings r k 0 t) := by
  have hkeep (c : Context) (n : Nat) (hc : c.ledger = ⟨n, c.ledger.part, [], 0⟩) (e : Element) :
      (c.checkAll e).ledger.findings =
        firstOf n ((c.reported e).map (fun f => f.inPart c.ledger.part)) := by
    rw [Context.checkAll, Context.ledger_checks, Ledger.findings_addAll]
    · rw [hc, List.nil_append]
    · rw [hc]
      exact .inr (Nat.zero_le _)
  cases t with
  | element e =>
      simp only [targetFindings]
      rw [hkeep _ budget rfl, hkeep _ 0 rfl, firstOf_zero]
      rfl
  | part uri =>
      simp only [targetFindings]
      split
      · simp [firstOf]
      · split
        · simp [firstOf]
        · rw [hkeep _ budget rfl, hkeep _ 0 rfl, firstOf_zero]
          rfl

theorem part_of_mem_targetFindings {r : Registry} {k : Option Package} {budget : Nat} {uri : String}
    (h : f ∈ targetFindings r k budget (.part uri)) : f.part = some uri := by
  simp only [targetFindings] at h
  split at h
  · simp at h
  · split at h
    · simp at h
    · rw [Context.checkAll, Context.ledger_checks] at h
      exact Ledger.part_of_mem_findings rfl (by simp [Context.inPart, Context.start, Ledger.forPart,
        Ledger.empty]) f h

def unbounded (q : Inquiry) : List Finding :=
  q.pending ++ q.remaining.flatMap (targetFindings q.registry q.package 0)

def cut (bound emitted : Nat) (l : List Finding) : List Finding :=
  if bound = 0 then l else l.take (bound - emitted)

def left (q : Inquiry) : List Finding := cut q.bound q.emitted q.unbounded

theorem left_of_exhausted (h : q.isExhausted = true) : q.left = [] := by
  simp only [isExhausted, Bool.and_eq_true, decide_eq_true_eq] at h
  rw [left, cut, if_neg (by omega), Nat.sub_eq_zero_of_le h.2, List.take_zero]

theorem budget_eq_zero_iff (h : q.isExhausted = false) : q.budget = 0 ↔ q.bound = 0 := by
  simp only [isExhausted, Bool.and_eq_false_iff, decide_eq_false_iff_not] at h
  rw [budget]
  split
  · next hb => simp [hb]
  · next hb => omega

theorem cut_eq_firstOf (h : q.isExhausted = false) (l : List Finding) :
    cut q.bound q.emitted l = firstOf q.budget l := by
  rw [cut, firstOf]
  by_cases hb : q.bound = 0
  · rw [if_pos hb, if_pos ((budget_eq_zero_iff h).mpr hb)]
  · rw [if_neg hb, if_neg fun hz => hb ((budget_eq_zero_iff h).mp hz), budget, if_neg hb]

theorem cut_cons (h : q.isExhausted = false) (f : Finding) (l : List Finding) :
    cut q.bound q.emitted (f :: l) = f :: cut q.bound (q.emitted + 1) l := by
  simp only [isExhausted, Bool.and_eq_false_iff, decide_eq_false_iff_not] at h
  by_cases hb : q.bound = 0
  · simp [cut, hb]
  · have hsucc : q.bound - q.emitted = q.bound - (q.emitted + 1) + 1 := by omega
    rw [cut, if_neg hb, cut, if_neg hb, hsucc, List.take_succ_cons]

theorem cut_cut_append (n e : Nat) (l m : List Finding) :
    cut n e (cut n e l ++ m) = cut n e (l ++ m) := by
  simp only [cut]
  split
  · rfl
  · rcases Nat.le_total l.length (n - e) with hle | hle
    · rw [List.take_of_length_le hle]
    · have hlen : (l.take (n - e)).length = n - e := by
        rw [List.length_take]
        omega
      rw [List.take_left' hlen, List.take_append_of_le_length hle]

theorem advance_none (hn : (advance q ts asked).1 = none) :
    ts.flatMap (targetFindings q.registry q.package 0) = [] := by
  induction ts generalizing asked with
  | nil => rfl
  | cons t ts ih =>
      simp only [advance] at hn
      split at hn
      · next he =>
          rw [targetFindings_eq, firstOf_eq_nil_iff] at he
          rw [List.flatMap_cons, he, List.nil_append]
          exact ih hn
      · simp at hn

theorem advance_some (h : q.isExhausted = false) (hs : advance q ts asked = (some f, p)) :
    cut q.bound q.emitted (ts.flatMap (targetFindings q.registry q.package 0)) = f :: p.left := by
  induction ts generalizing asked with
  | nil => simp [advance] at hs
  | cons t ts ih =>
      simp only [advance] at hs
      rw [List.flatMap_cons]
      split at hs
      · next he =>
          rw [targetFindings_eq, firstOf_eq_nil_iff] at he
          rw [he, List.nil_append]
          exact ih hs
      · next g gs he =>
          obtain ⟨hg, rfl⟩ := Prod.mk.inj hs
          obtain rfl := Option.some.inj hg
          rw [targetFindings_eq, ← cut_eq_firstOf h] at he
          -- the batch is the cut of all findings of the target
          cases hfull : targetFindings q.registry q.package 0 t with
          | nil =>
              rw [hfull] at he
              simp [cut] at he
          | cons a as =>
              rw [hfull, cut_cons h] at he
              obtain ⟨rfl, rfl⟩ := List.cons.inj he
              rw [List.cons_append, cut_cons h, left, unbounded, cut_cut_append]

theorem left_next_none (h : q.next.1 = none) : q.left = [] := by
  cases hex : q.isExhausted with
  | true => exact left_of_exhausted hex
  | false =>
      simp only [next, hex, Bool.false_eq_true, if_false] at h
      split at h
      · simp at h
      · next hp =>
          rw [left, unbounded, hp, advance_none h]
          simp [cut]

theorem left_next_some (h : q.next = (some f, p)) : q.left = f :: p.left := by
  cases hex : q.isExhausted with
  | true => simp [next, hex] at h
  | false =>
      simp only [next, hex, Bool.false_eq_true, if_false] at h
      split at h
      · next g gs hp =>
          obtain ⟨hg, rfl⟩ := Prod.mk.inj h
          obtain rfl := Option.some.inj hg
          rw [left, unbounded, hp, List.cons_append, cut_cons hex]
          rfl
      · next hp =>
          rw [left, unbounded, hp, List.nil_append]
          exact advance_some hex h

theorem drain_eq_left (q : Inquiry) : q.drain.1 = q.left := by
  induction q using drain.induct with
  | case1 q p h =>
      rw [drain]
      split
      · next hn => exact (left_next_none (by rw [hn])).symm
      · next hs => simp [h] at hs
  | case2 q f p h ih =>
      rw [drain]
      split
      · next hn => simp [h] at hn
      · next hs =>
          rw [h] at hs
          obtain ⟨hf, rfl⟩ := Prod.mk.inj hs
          obtain rfl := Option.some.inj hf
          rw [left_next_some h, ← ih]

theorem bound_next (q : Inquiry) : q.next.2.bound = q.bound := by
  have hadv (ts : List Target) (asked : List String) : (advance q ts asked).2.bound = q.bound := by
    induction ts generalizing asked with
    | nil => rfl
    | cons t ts ih =>
        simp only [advance]
        split
        · exact ih _
        · rfl
  simp only [next]
  split
  · rfl
  · split
    · rfl
    · exact hadv _ _

theorem bound_take (n : Nat) (q : Inquiry) : (take n q).2.bound = q.bound := by
  induction n generalizing q with
  | zero => rfl
  | succ n ih =>
      have hq := bound_next q
      rw [take]
      split
      · next hn => rwa [hn] at hq
      · next hs =>
          rw [hs] at hq
          exact (ih _).trans hq

end Inquiry

def Package.rooted (k : Package) : List String :=
  k.uris.filter (fun uri => ((k.part? uri).bind Part.root).isSome)

theorem Package.mem_rooted_iff {k : Package} {uri : String} :
    uri ∈ k.rooted ↔ ∃ e, (k.part? uri).bind Part.root = some e := by
  rw [rooted, List.mem_filter, Option.isSome_iff_exists]
  constructor
  · exact fun h => h.2
  · rintro ⟨e, he⟩
    obtain ⟨p, hp, -⟩ := Option.bind_eq_some_iff.mp he
    have huri : p.uri = uri := by simpa using List.find?_some hp
    exact ⟨List.mem_map.mpr ⟨p, List.mem_of_find?_eq_some hp, huri⟩, e, he⟩

namespace Validator

def unbounded (v : Validator) : Validator := { v with settings := { v.settings with bound := 0 } }

def partFindings (v : Validator) (k : Package) (uri : String) : List Finding :=
  match (v.unbounded.validatePart k uri).1 with
  | .ok q => q.drain.1
  | .error _ => []

variable {v w : Validator} {k : Package} {q : Inquiry} {r : Registry}

theorem validatePackage_ok (h : v.validatePackage k = (.ok q, w)) :
    v.checkProcessing k = .ok () ∧ ∃ r, v.registry.1 = .ok r ∧
      q = .begin r (some k) v.settings.bound (k.uris.map .part) := by
  simp only [validatePackage, beginning] at h
  split at h
  · simp at h
  · next hc =>
      refine ⟨hc, ?_⟩
      split at h
      · simp at h
      · next r _ hr =>
          obtain ⟨hq, -⟩ := Prod.mk.inj h
          exact ⟨r, by rw [hr], (Except.ok.inj hq).symm⟩

theorem checkPart_of_rooted {uri : String} (h : uri ∈ k.rooted) : checkPart k uri = .ok () := by
  obtain ⟨e, he⟩ := Package.mem_rooted_iff.mp h
  obtain ⟨p, hp, hr⟩ := Option.bind_eq_some_iff.mp he
  simp [checkPart, hp, hr]

theorem validatePart_of_rooted (hc : v.checkProcessing k = .ok ()) (hr : v.registry.1 = .ok r)
    {uri : String} (h : uri ∈ k.rooted) :
    (v.validatePart k uri).1 =
      .ok { Inquiry.begin r (some k) v.settings.bound [.part uri] with asked := [uri] } := by
  have hobjection : (checkPart k uri >>= fun _ => v.checkProcessing k) = .ok () := by
    rw [checkPart_of_rooted h]
    exact hc
  rw [validatePart, hobjection, beginning]
  split
  · next he =>
      rw [he] at hr
      cases hr
  · next hs =>
      rw [hs] at hr
      obtain rfl := Except.ok.inj hr
      rfl

theorem validatePart_unbounded (hc : v.checkProcessing k = .ok ()) (hr : v.registry.1 = .ok r)
    {uri : String} (h : uri ∈ k.rooted) :
    (v.unbounded.validatePart k uri).1 =
      .ok { Inquiry.begin r (some k) 0 [.part uri] with asked := [uri] } :=
  validatePart_of_rooted (v := v.unbounded) hc hr h

theorem partFindings_eq (hc : v.checkProcessing k = .ok ()) (hr : v.registry.1 = .ok r)
    {uri : String} (h : uri ∈ k.rooted) :
    v.partFindings k uri = Inquiry.targetFindings r (some k) 0 (.part uri) := by
  rw [partFindings, validatePart_unbounded hc hr h]
  simp only
  rw [Inquiry.drain_eq_left]
  simp [Inquiry.left, Inquiry.cut, Inquiry.begin, Inquiry.unbounded]

theorem targetFindings_of_not_rooted {uri : String} (h : uri ∉ k.rooted) (budget : Nat) :
    Inquiry.targetFindings r (some k) budget (.part uri) = [] := by
  have hnone : (k.part? uri).bind Part.root = none := by
    rw [Option.eq_none_iff_forall_ne_some]
    exact fun e he => h (Package.mem_rooted_iff.mpr ⟨e, he⟩)
  simp [Inquiry.targetFindings, hnone]

theorem flatMap_targetFindings (hc : v.checkProcessing k = .ok ()) (hr : v.registry.1 = .ok r) :
    (k.uris.map Target.part).flatMap (Inquiry.targetFindings r (some k) 0) =
      k.rooted.flatMap (v.partFindings k) := by
  rw [List.flatMap_map]
  apply flatMap_eq_flatMap_filter
  · intro uri hu hroot
    exact (partFindings_eq hc hr (List.mem_filter.mpr ⟨hu, hroot⟩)).symm
  · intro uri _ hroot
    exact targetFindings_of_not_rooted (fun h => hroot (List.mem_filter.mp h).2) 0

/-- A package is drained part by part, and a bound only cuts off the end. -/
theorem validatePackage_drain (h : v.validatePackage k = (.ok q, w)) :
    (∀ uri ∈ k.rooted, ∃ p, (v.unbounded.validatePart k uri).1 = .ok p) ∧
    (∀ uri ∈ k.rooted, ∀ f ∈ v.partFindings k uri, f.part = some uri) ∧
    q.drain.1 = firstOf v.settings.bound (k.rooted.flatMap (v.partFindings k)) ∧
    ∀ n, (q.take n).2.isExhausted = false →
      ((q.take n).2.budget = 0 ↔ v.settings.bound = 0) := by
  obtain ⟨hc, r, hr, rfl⟩ := validatePackage_ok h
  refine ⟨fun uri hu => ⟨_, validatePart_unbounded hc hr hu⟩, fun uri hu f hf => ?_, ?_,
    fun n hn => ?_⟩
  · rw [partFindings_eq hc hr hu] at hf
    exact Inquiry.part_of_mem_targetFindings hf
  · rw [Inquiry.drain_eq_left, ← flatMap_targetFindings hc hr]
    rfl
  · rw [Inquiry.budget_eq_zero_iff hn, Inquiry.bound_take]
    rfl

/-- Two parts with two findings each; the bound of three falls between those of the second part. -/
theorem validatePackage_drain_two_parts :
    ∃ (v : Validator) (k : Package) (q : Inquiry) (w : Validator),
      v.validatePackage k = (.ok q, w) ∧ k.uris = ["/a", "/b", "/c"] ∧
        q.drain.1 = (["/b", "/c"].flatMap (v.partFindings k)).take 3 ∧
        (v.partFindings k "/c").length = 2 ∧
        q.drain.1.map (fun f => (f.part, f.defect.rule)) =
          [(some "/b", "Sch_InvalidChildinLeafElement"), (some "/b", "Sch_TextNotAllowed"),
            (some "/c", "Sch_InvalidChildinLeafElement")] := by
  let shelf : RegistryShelf := .ofDeclarations .standard [.bare ⟨"w:b"⟩ ⟨23, "b"⟩ .empty]
  let leaf : Element := .ofNode (.typed ⟨"w:b"⟩ ⟨23, "b"⟩ .empty)
  let root : Element := { leaf with text := some "x", children := [leaf] }
  let v : Validator := { Validator.ofShelf shelf with settings := ⟨.office2007, 3⟩ }
  let k : Package := { Package.empty .word with
    parts := [⟨"/a", none, []⟩, ⟨"/b", some root, []⟩, ⟨"/c", some root, []⟩] }
  have hrooted : k.rooted = ["/b", "/c"] := by decide
  obtain ⟨q, w, h⟩ : ∃ q w, v.validatePackage k = (.ok q, w) := ⟨_, _, rfl⟩
  have hdrain := (validatePackage_drain h).2.2.1
  obtain ⟨hc, r, hr, -⟩ := validatePackage_ok h
  obtain rfl := Except.ok.inj hr
  have hb : v.partFindings k "/b" = _ := partFindings_eq hc hr (by rw [hrooted]; decide)
  have hc : v.partFindings k "/c" = _ := partFindings_eq hc hr (by rw [hrooted]; decide)
  rw [hrooted] at hdrain
  refine ⟨v, k, q, w, h, rfl, hdrain, ?_, ?_⟩
  · rw [hc]
    decide +kernel
  · rw [hdrain, List.flatMap_cons, List.flatMap_cons, hb, hc]
    decide +kernel

end Validator

end OfficeSchema
