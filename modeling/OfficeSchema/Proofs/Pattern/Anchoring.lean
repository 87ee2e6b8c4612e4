import OfficeSchema.Pattern.Basic
import OfficeSchema.Proofs.Pattern.Fuel
import OfficeSchema.Proofs.Pattern.Matching

namespace OfficeSchema.Pattern

theorem Look.holdsAt_textStart {t : Array Char} {i : Nat} (hi : i ≤ t.size) :
    Look.textStart.holdsAt t i = true ↔ i = 0 := by
  simp only [holdsAt, holds]
  split
  · simp [*]
  · simp only [Option.isNone_iff_eq_none, Array.getElem?_eq_none_iff]
    omega

theorem Look.holdsAt_textEnd {t : Array Char} {i : Nat} (hi : i ≤ t.size) :
    Look.textEnd.holdsAt t i = true ↔ i = t.size := by
  simp only [holdsAt, holds, Option.isNone_iff_eq_none, Array.getElem?_eq_none_iff]
  omega

theorem Regex.occursIn_anchored {r : Regex} {s : List Char} :
    (Regex.seq (.look .textStart) (.seq r (.look .textEnd))).occursIn s = true ↔
      r.MatchesWhole s := by
  rw [occursIn_iff]
  simp only [Spans, MatchesWhole]
  constructor
  · rintro ⟨i, j, hi, k, ⟨rfl, hstart⟩, l, hspan, rfl, hend⟩
    obtain rfl := (Look.holdsAt_textStart hi).mp hstart
    rwa [(Look.holdsAt_textEnd (hspan.le_size (Nat.zero_le _))).mp hend] at hspan
  · intro hspan
    exact ⟨0, s.length, Nat.zero_le _, 0, ⟨rfl, rfl⟩, s.length, hspan, rfl,
      (Look.holdsAt_textEnd (t := s.toArray) (Nat.le_refl _)).mpr rfl⟩

open Reading

theorem Atom.read?_eq_some_iff {s u : List Char} {a : Atom} {n : Nat} (hn : 2 * s.length + 1 ≤ n) :
    read? s = some (a, u) ↔ ∃ set, branches n [] [] ⟨.initial, []⟩ s = some ((a, set), u) := by
  simp only [read?, Option.map_eq_some_iff]
  constructor
  · rintro ⟨⟨⟨b, set⟩, v⟩, h, heq⟩
    obtain ⟨rfl, rfl⟩ := Prod.mk.inj heq
    exact ⟨set, extends_branches _ (by omega) (Nat.lt_succ_self s.length) h⟩
  · rintro ⟨set, h⟩
    exact ⟨_, extends_branches _ (by omega) (Nat.lt_succ_self s.length) h, rfl⟩

theorem length_append_closing (s : List Char) : (s ++ closing).length = s.length + 2 :=
  List.length_append

theorem length_opening_append (s : List Char) : ("^(?:".toList ++ s).length = s.length + 4 := by
  rw [List.length_append, Nat.add_comm]
  rfl

theorem Atom.contained_read? : Contained read? where
  suffix h := by
    obtain ⟨set, h⟩ := (read?_eq_some_iff (Nat.le_refl _)).mp h
    exact (contained_branches ..).suffix h
  forward {s a u} h := by
    have hn : 2 * (s ++ closing).length + 1 ≤ 2 * s.length + 5 := by
      rw [length_append_closing]
      omega
    obtain ⟨set, h⟩ := (read?_eq_some_iff (n := 2 * s.length + 5) (by omega)).mp h
    rcases (contained_branches ..).forward h with hread | ⟨rfl, hread⟩
    · exact .inl ((read?_eq_some_iff hn).mpr ⟨set, hread⟩)
    · exact .inr ⟨rfl, (read?_eq_some_iff hn).mpr ⟨set, hread⟩⟩
  backward {s a u} h := by
    obtain ⟨set, h⟩ := (read?_eq_some_iff (Nat.le_refl _)).mp h
    exact (read?_eq_some_iff (by rw [length_append_closing]; omega)).mpr
      ⟨set, (contained_branches ..).backward h⟩

theorem Atom.ofText?_eq_some_iff {s : List Char} {a : Atom} :
    ofText? s = some a ↔ read? s = some (a, []) := by
  rw [ofText?]
  split
  · simp [*]
  · next hnot => exact ⟨nofun, fun h => absurd h (hnot a)⟩

/-- The end of the group is read behind an expression unless it is taken into a comment. -/
theorem Atom.read?_closing_iff {s : List Char} {a : Atom} (h : ofText? s = some a) :
    read? (s ++ closing) = some (a, closing) ↔ ofText? (s ++ closing) = none := by
  rcases contained_read?.forward (ofText?_eq_some_iff.mp h) with hclosing | ⟨-, hcomment⟩
  · simp [ofText?, hclosing]
  · simp [ofText?, hcomment]

theorem Atom.read?_of_closing {s u : List Char} {a : Atom}
    (h : read? (s ++ closing) = some (a, ')' :: u)) :
    read? s = some (a, []) ∧ u = ['$'] ∨ ∃ rest, read? s = some (a, ')' :: rest) := by
  obtain ⟨w, hw⟩ := contained_read?.suffix h
  rcases List.append_eq_append_iff.mp hw with ⟨v, rfl, hv⟩ | ⟨v, rfl, hv⟩
  · rw [hv] at h
    have hread := contained_read?.backward h
    cases v with
    | nil => exact .inl ⟨hread, by simpa using hv⟩
    | cons c rest =>
        obtain ⟨rfl, -⟩ := List.cons.inj hv
        exact .inr ⟨rest, hread⟩
  · -- nothing shorter than the closing text ends it and starts with the parenthesis
    rcases v with _ | ⟨c, _ | ⟨d, v⟩⟩
    · exact .inl ⟨contained_read?.backward (u := []) (hv ▸ h), by simpa using hv.symm⟩
    · simp at hv
    · simp at hv

theorem close_eq_some {s u : List Char} (h : close s = some ((), u)) : s = ')' :: u := by
  cases s with
  | nil => exact absurd h nofun
  | cons c s =>
      obtain ⟨d, v, hd, h⟩ := bind_eq_some.mp h
      obtain ⟨rfl, rfl⟩ := of_some_eq_some hd
      split at h
      · next hc =>
          obtain ⟨-, rfl⟩ := of_some_eq_some h
          rw [eq_of_beq hc]
      · exact absurd h nofun

def Atom.anchored (a : Atom) : Atom :=
  ⟨.seq (.look .textStart) (.seq a.regex (.look .textEnd)), a.depth + 2, true⟩

theorem branches_anchored (n : Nat) (s : List Char) :
    branches (n + 2) [] [] ⟨.initial, []⟩ ("^(?:".toList ++ s) =
      (do
        let inside ← branches n [] [] ⟨.initial, []⟩
        close
        branches n [] [⟨inside.1.regex, inside.1.depth + 1, true⟩, ⟨.look .textStart, 0, true⟩]
          ⟨.initial, inside.2.names⟩ : Reading (Atom × Setting)) s := by
  rfl

theorem branches_textEnd (n : Nat) (a b : Atom) (names : List (List Char)) :
    branches (n + 2) [] [a, b] ⟨.initial, names⟩ ['$'] =
      some ((joinSeq [⟨.look .textEnd, 0, true⟩, a, b], ⟨.initial, names⟩), []) := by
  rfl

theorem Atom.ofText?_opening_iff {s : List Char} {b : Atom} {n : Nat} (hn : 2 * s.length + 7 ≤ n) :
    ofText? ("^(?:".toList ++ s) = some b ↔ ∃ a inside u,
      branches n [] [] ⟨.initial, []⟩ s = some ((a, inside), ')' :: u) ∧
        ∃ set, branches n [] [⟨a.regex, a.depth + 1, true⟩, ⟨.look .textStart, 0, true⟩]
          ⟨.initial, inside.names⟩ u = some ((b, set), []) := by
  have hsteps : 2 * ("^(?:".toList ++ s).length + 1 ≤ n + 2 := by
    rw [length_opening_append]
    omega
  rw [ofText?_eq_some_iff, read?_eq_some_iff hsteps, branches_anchored]
  constructor
  · rintro ⟨set, h⟩
    obtain ⟨⟨a, inside⟩, v, ha, h⟩ := bind_eq_some.mp h
    obtain ⟨⟨⟩, u, hclose, hrest⟩ := bind_eq_some.mp h
    rw [close_eq_some hclose] at ha
    exact ⟨a, inside, u, ha, set, hrest⟩
  · rintro ⟨a, inside, u, ha, set, hrest⟩
    refine ⟨set, ?_⟩
    rw [bind_of_eq ha, bind_of_eq (x := ()) (u := u) rfl]
    exact hrest

theorem Atom.ofText?_anchored {s : List Char} {a : Atom}
    (h : read? (s ++ closing) = some (a, closing)) :
    ofText? ("^(?:".toList ++ (s ++ closing)) = some a.anchored := by
  have hn : 2 * (s ++ closing).length + 1 ≤ 2 * (s ++ closing).length + 8 := by omega
  obtain ⟨inside, h⟩ := (read?_eq_some_iff hn).mp h
  exact (ofText?_opening_iff (by omega)).mpr ⟨a, inside, ['$'], h, _, branches_textEnd ..⟩

theorem Atom.read?_of_anchored {s : List Char} {b : Atom}
    (h : ofText? ("^(?:".toList ++ (s ++ closing)) = some b) :
    ∃ a u, read? (s ++ closing) = some (a, ')' :: u) := by
  obtain ⟨a, inside, u, ha, -⟩ := (ofText?_opening_iff (Nat.le_refl _)).mp h
  exact ⟨a, u, (read?_eq_some_iff (by omega)).mpr ⟨inside, ha⟩⟩

theorem Atom.ofText?_anchored_iff {s : List Char} {a b : Atom} (h : ofText? s = some a) :
    ofText? ("^(?:".toList ++ (s ++ closing)) = some b ↔
      ofText? (s ++ closing) = none ∧ b = a.anchored := by
  constructor
  · intro hb
    obtain ⟨c, u, hc⟩ := read?_of_anchored hb
    have hclosing : read? (s ++ closing) = some (a, closing) := by
      rw [ofText?_eq_some_iff] at h
      rcases read?_of_closing hc with ⟨hread, rfl⟩ | ⟨rest, hread⟩
      · obtain rfl : a = c := by simpa [h] using hread
        exact hc
      · simp [h] at hread
    refine ⟨(read?_closing_iff h).mp hclosing, ?_⟩
    exact Option.some.inj (hb.symm.trans (ofText?_anchored hclosing))
  · rintro ⟨hnone, rfl⟩
    exact ofText?_anchored ((read?_closing_iff h).mpr hnone)

theorem Atom.isSmall_anchored {a : Atom} :
    a.anchored.isSmall = true ↔ a.depth + 2 ≤ nestLimit ∧ a.regex.size + 64 ≤ Regex.sizeLimit := by
  have hsize : a.anchored.regex.size = a.regex.size + 64 := by
    simp only [anchored, Regex.size, Regex.stateBytes, stateSize]
    omega
  have hdepth : a.anchored.depth = a.depth + 2 := rfl
  rw [isSmall, Bool.and_eq_true, decide_eq_true_eq, decide_eq_true_eq, hsize, hdepth]

theorem Regex.ofText?_eq_some_iff {s : List Char} {r : Regex} :
    ofText? s = some r ↔ ∃ a, Atom.ofText? s = some a ∧ a.isSmall = true ∧ a.regex = r := by
  simp [ofText?, and_assoc]

theorem ofSource?_eq_some_iff {source : String} {p : OfficeSchema.Pattern} :
    ofSource? source = some p ↔
      ∃ b, Atom.ofText? ("^(?:".toList ++ (source.toList ++ closing)) = some b ∧
        b.isSmall = true ∧ p = ⟨source, b.regex⟩ := by
  have htext : anchored source = "^(?:".toList ++ (source.toList ++ closing) :=
    List.append_assoc ..
  simp only [ofSource?, Option.map_eq_some_iff, Regex.ofText?_eq_some_iff, htext]
  constructor
  · rintro ⟨_, ⟨b, hb, hsmall, rfl⟩, rfl⟩
    exact ⟨b, hb, hsmall, rfl⟩
  · rintro ⟨b, hb, hsmall, rfl⟩
    exact ⟨b.regex, ⟨b, hb, hsmall, rfl⟩, rfl⟩

theorem ofSource?_eq_some_iff_of_ofText? {source : String} {a : Atom} {p : OfficeSchema.Pattern}
    (h : Atom.ofText? source.toList = some a) :
    ofSource? source = some p ↔
      Atom.ofText? (source.toList ++ closing) = none ∧ a.anchored.isSmall = true ∧
        p = ⟨source, a.anchored.regex⟩ := by
  simp only [ofSource?_eq_some_iff, Atom.ofText?_anchored_iff h, and_assoc, exists_and_left,
    exists_eq_left]

/-- A source that is an expression by itself makes a pattern unless it ends within a comment or
comes too near the limits, and the pattern matches what the source matches as a whole. A source that
is none makes a pattern only where it closes the group that is put around it. -/
theorem matchesText_iff_matchesWhole (source : String) :
    (∀ r, Regex.ofText? source.toList = some r →
      ((ofSource? source).isSome ↔ Atom.ofText? (source.toList ++ closing) = none ∧
        ∃ a, Atom.ofText? source.toList = some a ∧ a.depth + 2 ≤ nestLimit ∧
          a.regex.size + 64 ≤ Regex.sizeLimit) ∧
      ∀ p, ofSource? source = some p → ∀ value,
        (p.matchesText value = true ↔ r.MatchesWhole value.toList)) ∧
    (Regex.ofText? source.toList = none → (ofSource? source).isSome →
      ∃ a rest, Atom.read? source.toList = some (a, ')' :: rest)) := by
  constructor
  · intro r hr
    obtain ⟨a, ha, -, rfl⟩ := Regex.ofText?_eq_some_iff.mp hr
    constructor
    · simp [Option.isSome_iff_exists, ofSource?_eq_some_iff_of_ofText? ha, ha,
        Atom.isSmall_anchored]
    · intro p hp value
      obtain ⟨-, -, rfl⟩ := (ofSource?_eq_some_iff_of_ofText? ha).mp hp
      exact Regex.occursIn_anchored
  · intro hnone hsome
    obtain ⟨p, hp⟩ := Option.isSome_iff_exists.mp hsome
    obtain ⟨b, hb, -, -⟩ := ofSource?_eq_some_iff.mp hp
    obtain ⟨a, u, ha⟩ := Atom.read?_of_anchored hb
    rcases Atom.read?_of_closing ha with ⟨hread, -⟩ | ⟨rest, hread⟩
    · -- an expression within the limits around it is within those for itself
      have hread := Atom.ofText?_eq_some_iff.mpr hread
      obtain ⟨-, hsmall, -⟩ := (ofSource?_eq_some_iff_of_ofText? hread).mp hp
      have hlimits := Atom.isSmall_anchored.mp hsmall
      have : a.isSmall = true := by simp [Atom.isSmall]; omega
      exact absurd (Regex.ofText?_eq_some_iff.mpr ⟨a, hread, this, rfl⟩) (by simp [hnone])
    · exact ⟨a, rest, hread⟩

theorem matchesText_alternatives :
    ((ofSource? "a|b").isSome ∧ ∀ p, ofSource? "a|b" = some p → ∀ value,
      (p.matchesText value = true ↔
        (Regex.alt (.one (.single 'a')) (.one (.single 'b'))).MatchesWhole value.toList)) ∧
    Regex.ofText? "a)|(?:b".toList = none ∧ (ofSource? "a)|(?:b").isSome ∧
      ∃ a rest, Atom.read? "a)|(?:b".toList = some (a, ')' :: rest) := by
  constructor
  · have h := (matchesText_iff_matchesWhole "a|b").1
      (.alt (.one (.single 'a')) (.one (.single 'b'))) (by decide +kernel)
    exact ⟨h.1.mpr ⟨by rfl, _, rfl, by decide, by decide +kernel⟩, h.2⟩
  · have hnone : Regex.ofText? "a)|(?:b".toList = none := by rfl
    have hsome : (ofSource? "a)|(?:b").isSome = true := by decide +kernel
    exact ⟨hnone, hsome, (matchesText_iff_matchesWhole "a)|(?:b").2 hnone hsome⟩

/-- The source closes the group around it and opens another one, which has the end to itself. -/
theorem matchesText_beyond_group :
    Regex.ofText? "a)|(?:b".toList = none ∧
      ((ofSource? "a)|(?:b").any fun p => p.matchesText "ax") = true :=
  ⟨by rfl, by decide +kernel⟩

end OfficeSchema.Pattern
