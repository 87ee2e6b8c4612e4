import OfficeSchema.Proofs.Attempts
import OfficeSchema.Proofs.Validation.Entrances

namespace OfficeSchema

/-- After `n` findings, all parts in `done` were asked for, each of them because its findings were
needed, and those in `rest` are still to be handed out. -/
inductive Underway (found : String → List Finding) : Nat → List String → List Finding → Prop
  | start : Underway found 0 [] []
  | within {uri : String} {given rest : List Finding} (before : List String)
      (hfound : found uri = given ++ rest) (hgiven : given ≠ []) :
      Underway found ((before.flatMap found).length + given.length) (before ++ [uri]) rest

namespace Underway

variable {found : String → List Finding} {n : Nat} {done skipped all uris : List String}
  {uri : String} {f : Finding} {rest : List Finding}

theorem length_eq (h : Underway found n done rest) :
    (done.flatMap found).length = n + rest.length := by
  cases h with
  | start => rfl
  | within before hfound hgiven => simp [hfound, Nat.add_assoc]

theorem prefix_of_le (h : Underway found n done rest) (hdone : done <+: all)
    (huris : uris <+: all) (hn : n ≤ (uris.flatMap found).length) : done <+: uris := by
  cases h with
  | start => exact List.nil_prefix
  | @within uri given rest before hfound hgiven =>
      rcases List.prefix_or_prefix_of_prefix hdone huris with hle | hle
      · exact hle
      · rcases List.prefix_concat_iff.mp hle with heq | hbefore
        · exact heq ▸ List.prefix_rfl
        · -- the parts before the last one have fewer findings than were handed out
          obtain ⟨more, rfl⟩ := hbefore
          have hpos := List.length_pos_iff.mpr hgiven
          rw [List.flatMap_append, List.length_append] at hn
          omega

theorem hand (h : Underway found n done (f :: rest)) : Underway found (n + 1) done rest ∧
    ∃ uri, done.getLast? = some uri ∧ f ∈ found uri := by
  cases h with
  | @within uri given _ before hfound hgiven =>
      refine ⟨?_, uri, by simp, by simp [hfound]⟩
      have hfound' : found uri = (given ++ [f]) ++ rest := by simp [hfound]
      have hstep := within before hfound' (by simp)
      rwa [List.length_append, ← Nat.add_assoc] at hstep

theorem goOn (h : Underway found n done []) (hskipped : skipped.flatMap found = [])
    (hfound : found uri = f :: rest) : Underway found (n + 1) (done ++ skipped ++ [uri]) rest := by
  have hgiven : found uri = [f] ++ rest := hfound
  have hstep := within (done ++ skipped) hgiven (by simp)
  rwa [List.flatMap_append, hskipped, List.append_nil, h.length_eq] at hstep

end Underway

namespace Inquiry

variable {r : Registry} {k : Package} {bound n : Nat} {done todo uris : List String} {f : Finding}
  {rest : List Finding} {q : Inquiry}

def after (q : Inquiry) : Nat → Inquiry
  | 0 => q
  | n + 1 => (q.after n).next.2

def ofPart (r : Registry) (k : Package) (uri : String) : List Finding :=
  targetFindings r (some k) 0 (.part uri)

def midway (r : Registry) (k : Package) (bound n : Nat) (done todo : List String)
    (rest : List Finding) : Inquiry :=
  ⟨r, some k, bound, cut bound n rest, todo.map .part, n, done.reverse⟩

theorem midway_start (r : Registry) (k : Package) (bound : Nat) (uris : List String) :
    midway r k bound 0 [] uris [] = .begin r (some k) bound (uris.map .part) := by
  simp [midway, begin, cut]

theorem next_of_exhausted (h : q.isExhausted = true) : q.next = (none, q) := by
  rw [next, if_pos h]

theorem next_of_nil (h : q.isExhausted = false) (hp : q.pending = []) :
    q.next = advance q q.remaining q.asked := by
  rw [next, if_neg (by simp [h]), hp]

theorem next_midway_cons (h : (midway r k bound n done todo (f :: rest)).isExhausted = false) :
    (midway r k bound n done todo (f :: rest)).next =
      (some f, midway r k bound (n + 1) done todo rest) := by
  have hcut := cut_cons h f rest
  rw [next, if_neg (by simp [h])]
  simp only [midway] at hcut ⊢
  rw [hcut]

theorem advance_midway (hq : q.isExhausted = false) (hr : q.registry = r)
    (hk : q.package = some k) (done todo : List String) :
    (todo.flatMap (ofPart r k) = [] ∧ advance q (todo.map .part) done.reverse =
      (none, midway r k q.bound q.emitted (done ++ todo) [] [])) ∨
    ∃ skipped uri later f rest, todo = skipped ++ uri :: later ∧
      skipped.flatMap (ofPart r k) = [] ∧ ofPart r k uri = f :: rest ∧
      advance q (todo.map .part) done.reverse =
        (some f, midway r k q.bound (q.emitted + 1) (done ++ skipped ++ [uri]) later rest) := by
  induction todo generalizing done with
  | nil =>
      left
      simp [advance, midway, cut, ← hr, ← hk]
  | cons uri todo ih =>
      have htarget : targetFindings q.registry q.package q.budget (.part uri) =
          cut q.bound q.emitted (ofPart r k uri) := by
        rw [targetFindings_eq, cut_eq_firstOf hq, hr, hk, ofPart]
      have hasking : asking (.part uri) done.reverse = (done ++ [uri]).reverse := by simp [asking]
      rw [List.map_cons, advance, htarget, hasking]
      cases hfound : ofPart r k uri with
      | nil =>
          have hnil : cut q.bound q.emitted [] = [] := by simp [cut]
          rw [hnil]
          rcases ih (done ++ [uri]) with ⟨hnone, hadv⟩ |
            ⟨skipped, u, later, f, rest, rfl, hs, hu, hadv⟩
          · left
            exact ⟨by simp [hfound, hnone], by simpa using hadv⟩
          · right
            refine ⟨uri :: skipped, u, later, f, rest, rfl, by simp [hfound, hs], hu, ?_⟩
            simpa using hadv
      | cons f rest =>
          right
          refine ⟨[], uri, todo, f, rest, rfl, rfl, hfound, ?_⟩
          rw [cut_cons hq]
          simp [midway, ← hr, ← hk]

theorem next_midway (hu : Underway (ofPart r k) n done rest)
    (hs : (midway r k bound n done todo rest).next.1 = some f) :
    ∃ done' todo' rest', (midway r k bound n done todo rest).next.2 =
        midway r k bound (n + 1) done' todo' rest' ∧
      done' ++ todo' = done ++ todo ∧ Underway (ofPart r k) (n + 1) done' rest' ∧
      ∃ uri, done'.getLast? = some uri ∧ f ∈ ofPart r k uri := by
  cases hex : (midway r k bound n done todo rest).isExhausted with
  | true => simp [next_of_exhausted hex] at hs
  | false =>
      cases rest with
      | cons g rest =>
          rw [next_midway_cons hex] at hs ⊢
          obtain rfl := Option.some.inj hs
          exact ⟨done, todo, rest, rfl, rfl, hu.hand⟩
      | nil =>
          have hnext : (midway r k bound n done todo []).next =
              advance (midway r k bound n done todo []) (todo.map .part) done.reverse :=
            next_of_nil hex (by simp [midway, cut])
          rw [hnext] at hs ⊢
          rcases advance_midway hex rfl rfl done todo with ⟨-, hadv⟩ |
            ⟨skipped, uri, later, g, rest, rfl, hskipped, hfound, hadv⟩
          · simp [hadv] at hs
          · rw [hadv] at hs ⊢
            obtain rfl := Option.some.inj hs
            exact ⟨_, later, rest, rfl, by simp, hu.goOn hskipped hfound, uri, by simp,
              hfound ▸ List.mem_cons_self⟩

theorem after_midway (r : Registry) (k : Package) (bound : Nat) (uris : List String) (n : Nat)
    (h : ∀ i < n, ((begin r (some k) bound (uris.map .part)).after i).next.1.isSome = true) :
    ∃ done todo rest, (begin r (some k) bound (uris.map .part)).after n =
        midway r k bound n done todo rest ∧
      done ++ todo = uris ∧ Underway (ofPart r k) n done rest := by
  induction n with
  | zero => exact ⟨[], uris, [], (midway_start r k bound uris).symm, rfl, .start⟩
  | succ n ih =>
      obtain ⟨done, todo, rest, hafter, hall, hu⟩ := ih fun i hi => h i (Nat.lt_succ_of_lt hi)
      obtain ⟨f, hf⟩ := Option.isSome_iff_exists.mp (h n (Nat.lt_succ_self n))
      rw [hafter] at hf
      obtain ⟨done', todo', rest', hnext, hall', hu', -⟩ := next_midway hu hf
      exact ⟨done', todo', rest', by rw [after, hafter, hnext], hall'.trans hall, hu'⟩

theorem advance_of_none {ts : List Target} {asked : List String}
    (h : (advance q ts asked).1 = none) : ∃ asked', (advance q ts asked).2 =
      { q with pending := [], remaining := [], asked := asked' } := by
  induction ts generalizing asked with
  | nil => exact ⟨asked, rfl⟩
  | cons t ts ih =>
      simp only [advance] at h ⊢
      split at h
      · exact ih h
      · simp at h

theorem next_next_of_none (h : q.next.1 = none) : q.next.2.next = (none, q.next.2) := by
  cases hex : q.isExhausted with
  | true =>
      rw [next_of_exhausted hex]
      exact next_of_exhausted hex
  | false =>
      cases hp : q.pending with
      | cons f fs => simp [next, hex, hp] at h
      | nil =>
          rw [next_of_nil hex hp] at h ⊢
          obtain ⟨asked, hend⟩ := advance_of_none h
          rw [hend]
          exact next_of_nil hex rfl

theorem after_of_none (h : (q.after n).next.1 = none) (i : Nat) :
    q.after (n + 1 + i) = q.after (n + 1) ∧ (q.after (n + 1 + i)).next.1 = none := by
  have hfixed : (q.after (n + 1)).next = (none, q.after (n + 1)) := next_next_of_none h
  have hsame : q.after (n + 1 + i) = q.after (n + 1) := by
    induction i with
    | zero => rfl
    | succ i ih => rw [← Nat.add_assoc, after, ih, hfixed]
  rw [hsame, hfixed]
  exact ⟨rfl, rfl⟩

end Inquiry

namespace Validator

variable {v w : Validator} {k : Package} {q : Inquiry} {r : Registry}

theorem rooted_of_validatePart {uri : String} {p : Inquiry}
    (h : (v.validatePart k uri).1 = .ok p) : uri ∈ k.rooted := by
  have hobjection := ((beginning_ok_iff _ _ _).mp ⟨p, h⟩).1
  obtain ⟨u, hpart, -⟩ := bind_eq_ok_iff.mp hobjection
  rw [checkPart] at hpart
  rw [Package.mem_rooted_iff]
  cases hp : k.part? uri with
  | none => simp [hp] at hpart
  | some part =>
      cases hroot : part.root with
      | none => simp [hp, hroot] at hpart
      | some e => exact ⟨e, by simp [hroot]⟩

theorem partFindings_eq_ofPart (hc : v.checkProcessing k = .ok ()) (hr : v.registry.1 = .ok r) :
    v.partFindings k = Inquiry.ofPart r k := by
  funext uri
  by_cases h : uri ∈ k.rooted
  · exact partFindings_eq hc hr h
  · rw [Inquiry.ofPart, targetFindings_of_not_rooted h, partFindings]
    cases hv : (v.unbounded.validatePart k uri).1 with
    | error e => rfl
    | ok p => exact absurd (rooted_of_validatePart hv) h

/-- After `n` findings the parts that were asked for are the shortest beginning of the package with
as many findings, and the last of them has the last finding. Once there is no finding, there is none
later, and nothing more is asked for; a bound that is reached asks for nothing at all. -/
theorem validatePackage_on_demand (h : v.validatePackage k = (.ok q, w)) :
    (∀ n, (∀ i < n, (q.after i).next.1.isSome = true) → ∃ done,
      (q.after n).asked.reverse = done ∧
      (q.after n).remaining = (k.uris.drop done.length).map .part ∧ (q.after n).emitted = n ∧
      done <+: k.uris ∧ n ≤ (done.flatMap (v.partFindings k)).length ∧
      ∀ uris, uris <+: k.uris → n ≤ (uris.flatMap (v.partFindings k)).length → done <+: uris) ∧
    (∀ n f, (∀ i < n, (q.after i).next.1.isSome = true) → (q.after n).next.1 = some f →
      ∃ uri, (q.after (n + 1)).asked.head? = some uri ∧ f ∈ v.partFindings k uri) ∧
    ∀ n, (q.after n).next.1 = none → ∀ i, n < i →
      (q.after i).next.1 = none ∧ q.after i = q.after (n + 1) ∧
        ((q.after n).isExhausted = true → q.after i = q.after n) := by
  obtain ⟨hc, r, hr, rfl⟩ := validatePackage_ok h
  rw [partFindings_eq_ofPart hc hr]
  refine ⟨fun n hn => ?_, fun n f hn hf => ?_, fun n hn i hi => ?_⟩
  · obtain ⟨done, todo, rest, hafter, hall, hu⟩ := Inquiry.after_midway r k _ _ n hn
    have hdone : done <+: k.uris := ⟨todo, hall⟩
    have htodo : k.uris.drop done.length = todo := by rw [← hall, List.drop_left]
    refine ⟨done, ?_, ?_, ?_, hdone, ?_, fun uris huris hle => hu.prefix_of_le hdone huris hle⟩
    · simp [hafter, Inquiry.midway]
    · simp [hafter, Inquiry.midway, htodo]
    · simp [hafter, Inquiry.midway]
    · rw [hu.length_eq]
      exact Nat.le_add_right _ _
  · obtain ⟨done, todo, rest, hafter, hall, hu⟩ := Inquiry.after_midway r k _ _ n hn
    rw [hafter] at hf
    obtain ⟨done', todo', rest', hnext, -, -, uri, hlast, hmem⟩ := Inquiry.next_midway hu hf
    refine ⟨uri, ?_, hmem⟩
    rw [Inquiry.after, hafter, hnext]
    simpa [Inquiry.midway] using hlast
  · obtain ⟨j, rfl⟩ := Nat.exists_eq_add_of_le hi
    obtain ⟨hsame, hnone⟩ := Inquiry.after_of_none hn j
    refine ⟨hnone, hsame, fun hex => ?_⟩
    rw [hsame, Inquiry.after, Inquiry.next_of_exhausted hex]

theorem validatePackage_on_demand_three_parts :
    ∃ (v : Validator) (k : Package) (q : Inquiry) (w : Validator),
      v.validatePackage k = (.ok q, w) ∧ k.uris = ["/a", "/b", "/c", "/d"] ∧
        (∀ i < 2, (q.after i).next.1.isSome = true) ∧
        2 ≤ (["/a", "/b", "/c"].flatMap (v.partFindings k)).length ∧
        (q.after 2).asked.reverse <+: ["/a", "/b", "/c"] ∧
        (q.after 2).next.1 = none ∧ (q.after 2).isExhausted = true ∧ q.after 5 = q.after 2 := by
  let shelf : RegistryShelf := .ofDeclarations .standard [.bare ⟨"w:b"⟩ ⟨23, "b"⟩ .empty]
  let root : Element := { Element.ofNode (.typed ⟨"w:b"⟩ ⟨23, "b"⟩ .empty) with text := some "x" }
  let v : Validator := { Validator.ofShelf shelf with settings := ⟨.office2007, 2⟩ }
  let k : Package := { Package.empty .word with
    parts := [⟨"/a", none, []⟩, ⟨"/b", some root, []⟩, ⟨"/c", some root, []⟩,
      ⟨"/d", some root, []⟩] }
  obtain ⟨r, hr⟩ : ∃ r, v.registry.1 = .ok r := ⟨_, rfl⟩
  have hfound : 2 ≤ (["/a", "/b", "/c"].flatMap (v.partFindings k)).length := by
    rw [partFindings_eq_ofPart (k := k) rfl hr]
    obtain rfl := Except.ok.inj hr
    decide +kernel
  refine ⟨v, k, _, _, rfl, rfl, by decide +kernel, hfound, ?_, by decide +kernel,
    by decide +kernel, ?_⟩
  · obtain ⟨done, hdone, -, -, -, -, hshortest⟩ :=
      (validatePackage_on_demand (v := v) (k := k) rfl).1 2 (by decide +kernel)
    rw [hdone]
    exact hshortest _ (by decide) hfound
  · have hend := (validatePackage_on_demand (v := v) (k := k) rfl).2.2 2 (by decide +kernel) 5
      (by decide)
    exact hend.2.2 (by decide +kernel)

end Validator

end OfficeSchema
