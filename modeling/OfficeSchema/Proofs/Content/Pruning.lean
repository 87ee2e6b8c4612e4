import OfficeSchema.Proofs.Content.Likeness
import OfficeSchema.Proofs.Particle.Coherence

/-!
Pruning. What a version lacks can be cut out of a content model beforehand: the members of a group
that stay are counted anew, but they stay apart and in order, so that the compiled model is alike
and the check of content gives the same findings.
-/

namespace OfficeSchema

namespace Particle

variable {v : Version} {c : Compositor} {o : Occurs} {members : List Particle} {P p q m : Particle}

def pruned (v : Version) (p : Particle) : Particle :=
  if p.isOffered v then p.trim v else .nothing

theorem leavesOf_append (ps qs : List Particle) :
    leavesOf (ps ++ qs) = leavesOf ps ++ leavesOf qs := by
  induction ps with
  | nil => rfl
  | cons p ps ih => simp only [List.cons_append, leavesOf, ih, List.append_assoc]

theorem leavesOf_restrict (v : Version) (p : Particle) :
    leavesOf (p.restrict v) = p.leaves.filter (fun l => l.isAvailable v) := by
  induction p with
  | leaf l => cases hl : l.isAvailable v <;> simp [restrict, leaves, leavesOf, hl]
  | group c o members ih =>
      simp only [restrict, leavesOf, leaves, List.append_nil]
      induction members with
      | nil => rfl
      | cons p ps ihs =>
          have hps := ihs fun q hq => ih q (by simp [hq])
          rw [restrictAll_cons, leavesOf_append, ih p (by simp), hps, leavesOf, List.filter_append]

theorem leaves_pruned (v : Version) (p : Particle) :
    (p.pruned v).leaves = p.leaves.filter (fun l => l.isAvailable v) := by
  rw [← leavesOf_restrict, restrict_eq, pruned]
  cases p.isOffered v <;> simp [leavesOf, leaves, nothing]

theorem isOffered_trim (v : Version) (p : Particle) : (p.trim v).isOffered v = p.isOffered v := by
  cases p <;> rfl

theorem countP_restrictAll (v : Version) (ps : List Particle) :
    (restrictAll v ps).countP (isOffered v) = ps.countP (isOffered v) := by
  rw [restrictAll_eq, List.countP_map, List.countP_filter]
  apply List.countP_congr
  intro p _
  simp [isOffered_trim]

def rank (v : Version) (members : List Particle) (i : Nat) : Nat :=
  (members.take i).countP (isOffered v)

theorem rank_lt_iff {i j : Nat} (hi : members[i]? = some p) (hp : p.isOffered v = true)
    (hj : members[j]? = some q) (hq : q.isOffered v = true) :
    rank v members i < rank v members j ↔ i < j :=
  countP_take_lt_iff hi hp hj hq

theorem rank_inj {i j : Nat} (hi : members[i]? = some p) (hp : p.isOffered v = true)
    (hj : members[j]? = some q) (hq : q.isOffered v = true)
    (h : rank v members i = rank v members j) : i = j :=
  countP_take_inj hi hp hj hq h

/-- A way from one particle down to another: its path among all members, and its path among those
members that a version has. -/
inductive Walk (v : Version) : Particle → Particle → Path → Path → Prop
  | here {p : Particle} : Walk v p p [] []
  | into {c : Compositor} {o : Occurs} {members : List Particle} {i : Nat} {m q : Particle}
      {path path' : Path} (hi : members[i]? = some m) (hm : m.isOffered v = true)
      (rest : Walk v m q path path') :
      Walk v (.group c o members) q (Step.toMember c i :: path)
        (Step.toMember c (rank v members i) :: path')

namespace Walk

variable {path path' place place' : Path}

theorem length_eq (h : Walk v P p path path') : path.length = path'.length := by
  induction h with
  | here => rfl
  | into _ _ _ ih => simp [ih]

theorem concat (h : Walk v P (.group c o members) path path') {i : Nat}
    (hi : members[i]? = some m) (hm : m.isOffered v = true) :
    Walk v P m (path ++ [Step.toMember c i]) (path' ++ [Step.toMember c (rank v members i)]) := by
  generalize hq : Particle.group c o members = q at h
  induction h with
  | here =>
      subst hq
      exact .into hi hm .here
  | into hj ho _ ih => exact .into hj ho (ih hq)

theorem parting (h : Walk v P p path path') (k : Walk v P q place place') :
    Path.shared path place = Path.shared path' place' ∧
      Path.ahead path place = Path.ahead path' place' := by
  induction h generalizing place place' with
  | here => cases k <;> exact ⟨rfl, rfl⟩
  | @into c o members i m _ _ _ hi hm _ ih =>
      cases k with
      | here => exact ⟨rfl, rfl⟩
      | @into _ _ _ j n _ _ _ hj hn rest =>
          by_cases hij : i = j
          · -- both go on through the same member
            subst hij
            obtain rfl : m = n := Option.some.inj (hi.symm.trans hj)
            obtain ⟨hshared, hahead⟩ := ih rest
            simp [Path.shared, Path.ahead, hshared, hahead]
          · -- they part here; counting anew keeps members apart and in order
            have hne : Step.toMember c i ≠ Step.toMember c j :=
              fun he => hij (Step.toMember_inj he)
            have hne' : Step.toMember c (rank v members i) ≠ Step.toMember c (rank v members j) :=
              fun he => hij (rank_inj hi hm hj hn (Step.toMember_inj he))
            have hlt : (Step.toMember c i).position < (Step.toMember c j).position ↔
                (Step.toMember c (rank v members i)).position <
                  (Step.toMember c (rank v members j)).position := by
              cases c with
              | sequence => exact (rank_lt_iff hi hm hj hn).symm
              | choice => exact Iff.rfl
              | all => exact Iff.rfl
            simp [Path.shared, Path.ahead, hne, hne', hlt]

end Walk

end Particle

def Route.unplaced (r : Route) : Route :=
  { r with path := [], choices := r.choices.map (fun c => (c.1, 0)) }

theorem Route.of_unplaced_eq {r r' : Route} (h : r.unplaced = r'.unplaced) :
    r.repeatable = r'.repeatable ∧
      r.choices.map (fun c => (c.1, 0)) = r'.choices.map (fun c => (c.1, 0)) ∧
      r.total = r'.total ∧ r.anchor = r'.anchor ∧ r.factor = r'.factor := by
  simpa [unplaced] using h

namespace Model

open Particle

variable {v : Version} {c : Compositor} {o : Occurs} {members ps : List Particle} {P p m : Particle}
  {r r' : Route} {n : Nat}

structure RoutesAlike (v : Version) (P p : Particle) (r r' : Route) : Prop where
  walk : Walk v P p r.path r'.path
  unplaced : r.unplaced = r'.unplaced

theorem RoutesAlike.member (h : RoutesAlike v P (.group c o members) r r') {i : Nat}
    (hi : members[i]? = some m) (hm : m.isOffered v = true) (choice : Option Nat) (alone : Bool) :
    RoutesAlike v P m ((r.enter o).member c o choice alone i)
      ((r'.enter o).member c o choice alone (rank v members i)) := by
  refine ⟨h.walk.concat hi hm, ?_⟩
  have hlen := h.walk.length_eq
  obtain ⟨hrep, hchoices, htotal, hanchor, hfactor⟩ := Route.of_unplaced_eq h.unplaced
  cases choice <;> simp [Route.unplaced, Route.member, Route.enter, *]

structure SlotsAlike (v : Version) (P : Particle) (s s' : Slot) : Prop where
  walk : ∃ q, Walk v P q s.path s'.path
  unplaced : s.unplaced = s'.unplaced

structure GroupsAlike (v : Version) (P : Particle) (f f' : ChoiceGroup) : Prop where
  walk : ∃ q, Walk v P q f.place f'.place
  unplaced : f.unplaced = f'.unplaced

theorem RoutesAlike.choice (h : RoutesAlike v P p r r') (o : Occurs) :
    GroupsAlike v P ((r.enter o).choice o) ((r'.enter o).choice o) := by
  refine ⟨⟨_, h.walk⟩, ?_⟩
  have hlen := h.walk.length_eq
  obtain ⟨hrep, hchoices, htotal, hanchor, hfactor⟩ := Route.of_unplaced_eq h.unplaced
  simp [ChoiceGroup.unplaced, Route.choice, Route.enter, *]

structure OutlinesAlike (v : Version) (P : Particle) (m m' : Model) : Prop where
  slots : List.Forall₂ (SlotsAlike v P) m.slots m'.slots
  groups : List.Forall₂ (GroupsAlike v P) m.groups m'.groups

theorem OutlinesAlike.append {m m' d d' : Model} (h : OutlinesAlike v P m m')
    (k : OutlinesAlike v P d d') : OutlinesAlike v P (m ++ d) (m' ++ d') :=
  ⟨List.rel_append h.slots k.slots, List.rel_append h.groups k.groups⟩

theorem outlineAll_alike {choice : Option Nat} {alone : Bool} (before : List Particle)
    (hps : before ++ ps = members)
    (h : ∀ p ∈ ps, ∀ r r' n, RoutesAlike v P p r r' →
      OutlinesAlike v P (outline v p r n) (outline v (p.trim v) r' n))
    (hr : RoutesAlike v P (.group c o members) r r') (n : Nat) :
    OutlinesAlike v P (outlineAll v c o choice alone ps before.length (r.enter o) n)
      (outlineAll v c o choice alone (restrictAll v ps) (before.countP (isOffered v))
        (r'.enter o) n) := by
  induction ps generalizing before n with
  | nil => exact ⟨.nil, .nil⟩
  | cons p ps ih =>
      have hrest := ih (before ++ [p]) (by simp [hps]) fun q hq => h q (by simp [hq])
      have hp : members[before.length]? = some p := by simp [← hps]
      rw [restrictAll_cons, restrict_eq, outlineAll]
      cases hoff : p.isOffered v with
      | true =>
          have hrank : rank v members before.length = before.countP (isOffered v) := by
            simp [rank, ← hps]
          have hone := h p (by simp) _ _ n (hr.member hp hoff choice alone)
          rw [hrank] at hone
          simp only [hoff, List.length_append, List.length_singleton, List.countP_append,
            List.countP_singleton, if_true] at hrest
          simp only [if_true, List.singleton_append, outlineAll, ← hone.groups.length_eq]
          exact hone.append (hrest _)
      | false =>
          -- the member takes a position on the left only
          simp only [hoff, List.length_append, List.length_singleton, List.countP_append,
            List.countP_singleton] at hrest
          have hnone (r : Route) (n : Nat) : outline v p r n = .empty := by
            cases p with
            | leaf l =>
                have hl : l.isAvailable v = false := hoff
                simp [outline, hl, Model.empty]
            | group c o members => simp [isOffered] at hoff
          rw [hnone]
          exact hrest n

theorem outline_alike (hr : RoutesAlike v P p r r') (n : Nat) :
    OutlinesAlike v P (outline v p r n) (outline v (p.trim v) r' n) := by
  induction p generalizing r r' n with
  | leaf l =>
      refine ⟨?_, .nil⟩
      cases hl : l.isAvailable v with
      | false => simp [outline, trim, hl]
      | true =>
          obtain ⟨hrep, hchoices, htotal, hanchor, hfactor⟩ := Route.of_unplaced_eq hr.unplaced
          simp only [outline, trim, hl, if_true]
          refine .cons ⟨⟨_, hr.walk⟩, ?_⟩ .nil
          simp [Slot.unplaced, Route.slot, *]
  | group c o members ih =>
      have hchooses : Chooses v c (restrictAll v members) ↔ Chooses v c members := by
        rw [Chooses, Chooses, countP_restrictAll]
      have hown : List.Forall₂ (GroupsAlike v P) (ownChoice v c o members r)
          (ownChoice v c o (restrictAll v members) r') := by
        simp only [ownChoice, hchooses]
        split
        · exact .cons (hr.choice o) .nil
        · exact .nil
      have hnumber (k : Nat) : choiceNumber v c (restrictAll v members) k =
          choiceNumber v c members k := by
        simp only [choiceNumber, hchooses]
      have halone : isAlone v c (restrictAll v members) = isAlone v c members := by
        rw [isAlone, isAlone, countP_restrictAll]
      rw [trim, outline, outline, hnumber, halone, ← hown.length_eq]
      refine OutlinesAlike.append ⟨.nil, hown⟩ ?_
      exact outlineAll_alike [] rfl (fun q hq r r' n h => ih q hq h n) hr _

theorem fresh_alike {ss ss' : List Slot} (h : List.Forall₂ (SlotsAlike v P) ss ss')
    (known : List Kind) : List.Forall₂ (SlotsAlike v P) (fresh known ss) (fresh known ss') := by
  induction h generalizing known with
  | nil => exact .nil
  | @cons s s' ss ss' hs _ ih =>
      have hkind : s.kind = s'.kind := (Slot.of_unplaced_eq hs.unplaced).1
      simp only [fresh, ← hkind]
      split
      · exact ih known
      · exact .cons hs (ih _)

def Counterparts (v : Version) (p : Particle) (s s' : Slot) : Prop :=
  SlotsAlike v p s s' ∧ s ∈ (ofParticle v p).slots ∧ s' ∈ (ofParticle v (p.trim v)).slots

theorem outline_root_alike (v : Version) (p : Particle) :
    OutlinesAlike v p (outline v p .root 0) (outline v (p.trim v) .root 0) :=
  outline_alike ⟨.here, rfl⟩ 0

theorem slots_counterparts (v : Version) (p : Particle) :
    List.Forall₂ (Counterparts v p) (ofParticle v p).slots (ofParticle v (p.trim v)).slots := by
  have h := fresh_alike (outline_root_alike v p).slots []
  rw [← ofParticle_slots, ← ofParticle_slots, List.forall₂_iff_zip] at h
  refine List.forall₂_iff_zip.mpr ⟨h.1, fun hmem => ?_⟩
  obtain ⟨hs, hs'⟩ := List.of_mem_zip hmem
  exact ⟨h.2 hmem, hs, hs'⟩

theorem bare_groups_alike (v : Version) (p : Particle) :
    List.Forall₂ (fun f f' : ChoiceGroup => GroupsAlike v p f.bare f'.bare)
      (ofParticle v p).groups (ofParticle v (p.trim v)).groups := by
  have h := (outline_root_alike v p).groups
  rwa [← ofParticle_groups, ← ofParticle_groups, List.forall₂_map_left_iff,
    List.forall₂_map_right_iff] at h

theorem isSome_lookup_counterparts {s s' : Slot} (h : Counterparts v p s s') (g : Nat) :
    (s.choices.lookup g).isSome = (s'.choices.lookup g).isSome := by
  rw [← isSome_lookup_unplaced s, ← isSome_lookup_unplaced s', h.1.unplaced]

theorem kinds_groups_eq {g : Nat} {f f' : ChoiceGroup}
    (hf : (ofParticle v p).groups[g]? = some f)
    (hf' : (ofParticle v (p.trim v)).groups[g]? = some f') : f.kinds = f'.kinds := by
  rw [(enrolled_ofParticle v p).listed g f hf, (enrolled_ofParticle v (p.trim v)).listed g f' hf']
  exact map_filter_eq_of_forall₂ (slots_counterparts v p)
    (fun s s' hs => isSome_lookup_counterparts hs g)
    fun s s' hs => (Slot.of_unplaced_eq hs.1.unplaced).1

theorem groups_choicesAlike (v : Version) (p : Particle) :
    List.Forall₂ (ChoicesAlike (Counterparts v p)) (ofParticle v p).groups
      (ofParticle v (p.trim v)).groups := by
  have hbare := bare_groups_alike v p
  rw [List.forall₂_iff_get] at hbare ⊢
  refine ⟨hbare.1, fun g hg hg' => ?_⟩
  obtain ⟨⟨q, hwalk⟩, hun⟩ := hbare.2 g hg hg'
  have hkinds := kinds_groups_eq (List.getElem?_eq_getElem hg) (List.getElem?_eq_getElem hg')
  simp only [ChoiceGroup.unplaced, ChoiceGroup.bare, List.get_eq_getElem, ChoiceGroup.mk.injEq,
    true_and, and_true] at hun
  refine ⟨?_, fun s s' hs => ?_⟩
  · simpa [ChoiceGroup.unplaced, hun.1, hun.2] using hkinds
  · obtain ⟨q', hs⟩ := hs.1.walk
    exact (hs.parting hwalk).1

theorem alternative_eq_iff {place p q : Path} {a b : Nat} (ha : place ++ [⟨0, a⟩] <+: p)
    (hb : place ++ [⟨0, b⟩] <+: q) : a = b ↔ place.length < Path.shared p q := by
  obtain ⟨u, rfl⟩ := ha
  obtain ⟨w, rfl⟩ := hb
  rw [List.append_assoc, List.append_assoc, Path.shared_append]
  by_cases hab : a = b <;> simp [Path.shared, hab]

theorem Fits.alternative_eq_iff {m : Model} {s t : Slot} (hs : m.Fits s) (ht : m.Fits t)
    {g a b : Nat} (ha : s.choices.lookup g = some a) (hb : t.choices.lookup g = some b) :
    ∃ f, m.groups[g]? = some f ∧ (a = b ↔ f.place.length < Path.shared s.path t.path) := by
  obtain ⟨f, hf, hfs⟩ := hs.chosen g a ((lookup_eq_some_iff hs.ordered g a).mp ha)
  obtain ⟨f', hf', hft⟩ := ht.chosen g b ((lookup_eq_some_iff ht.ordered g b).mp hb)
  obtain rfl : f = f' := Option.some.inj (hf.symm.trans hf')
  exact ⟨f, hf, Model.alternative_eq_iff hfs hft⟩

theorem eq_iff_eq_of_isSome {α : Type} {a b c d : Option α} (hac : a.isSome = c.isSome)
    (hbd : b.isSome = d.isSome)
    (h : ∀ x y z w, a = some x → b = some y → c = some z → d = some w → (x = y ↔ z = w)) :
    a = b ↔ c = d := by
  cases a with
  | none =>
      obtain rfl : c = none := by simpa using hac.symm
      cases b with
      | none =>
          obtain rfl : d = none := by simpa using hbd.symm
          simp
      | some y =>
          obtain ⟨w, rfl⟩ := Option.isSome_iff_exists.mp hbd.symm
          simp
  | some x =>
      obtain ⟨z, rfl⟩ := Option.isSome_iff_exists.mp hac.symm
      cases b with
      | none =>
          obtain rfl : d = none := by simpa using hbd.symm
          simp
      | some y =>
          obtain ⟨w, rfl⟩ := Option.isSome_iff_exists.mp hbd.symm
          simpa using h x y z w rfl rfl rfl rfl

theorem lookup_counterparts {s s' t t' : Slot} (hs : Counterparts v p s s')
    (ht : Counterparts v p t t') (g : Nat) :
    s.choices.lookup g = t.choices.lookup g ↔ s'.choices.lookup g = t'.choices.lookup g := by
  refine eq_iff_eq_of_isSome (isSome_lookup_counterparts hs g) (isSome_lookup_counterparts ht g)
    fun a b a' b' ha hb ha' hb' => ?_
  obtain ⟨f, hf, hab⟩ :=
    (fits_ofParticle hs.2.1).alternative_eq_iff (fits_ofParticle ht.2.1) ha hb
  obtain ⟨f', hf', hab'⟩ :=
    (fits_ofParticle hs.2.2).alternative_eq_iff (fits_ofParticle ht.2.2) ha' hb'
  have hplace : f.place.length = f'.place.length := by
    obtain ⟨-, hall⟩ := List.forall₂_iff_get.mp (bare_groups_alike v p)
    obtain ⟨hg, rfl⟩ := List.getElem?_eq_some_iff.mp hf
    obtain ⟨hg', rfl⟩ := List.getElem?_eq_some_iff.mp hf'
    obtain ⟨q, hwalk⟩ := (hall g hg hg').walk
    exact hwalk.length_eq
  obtain ⟨_, hwalk⟩ := hs.1.walk
  obtain ⟨_, hwalk'⟩ := ht.1.walk
  rw [hab, hab', hplace, (hwalk.parting hwalk').1]

theorem ofParticle_trim_alike (v : Version) (p : Particle) :
    Alike (Counterparts v p) (ofParticle v p) (ofParticle v (p.trim v)) where
  slots := slots_counterparts v p
  groups := groups_choicesAlike v p
  unplaced _ _ hs := hs.1.unplaced
  ordered s s' hs :=
    ⟨(regular_ofParticle v p).ordered s hs.2.1, (regular_ofParticle v _).ordered s' hs.2.2⟩
  shared _ _ _ _ hs ht := by
    obtain ⟨_, hs⟩ := hs.1.walk
    obtain ⟨_, ht⟩ := ht.1.walk
    exact (hs.parting ht).1
  ahead _ _ _ _ hs ht := by
    obtain ⟨_, hs⟩ := hs.1.walk
    obtain ⟨_, ht⟩ := ht.1.walk
    exact (hs.parting ht).2
  lookup _ _ _ _ hs ht g := lookup_counterparts hs ht g

theorem ofParticle_of_not_offered (h : p.isOffered v = false) : ofParticle v p = .empty := by
  cases p with
  | leaf l =>
      have hl : l.isAvailable v = false := h
      simp [ofParticle, visit, hl]
  | group c o members => simp [isOffered] at h

theorem ofParticle_nothing (v : Version) : ofParticle v .nothing = .empty := rfl

/-- What a version lacks may be deleted from a content model beforehand: the check of content gives
the same findings on all children, and the compiled models differ in the places only. -/
theorem ofParticle_pruned (v : Version) (p : Particle) :
    (∀ parent children, contentFindings (ofParticle v p) parent children =
      contentFindings (ofParticle v (p.pruned v)) parent children) ∧
    (ofParticle v p).slots.map Slot.unplaced =
      (ofParticle v (p.pruned v)).slots.map Slot.unplaced ∧
    (ofParticle v p).groups.map ChoiceGroup.unplaced =
      (ofParticle v (p.pruned v)).groups.map ChoiceGroup.unplaced := by
  rw [pruned]
  split
  · have h := ofParticle_trim_alike v p
    refine ⟨h.contentFindings_eq, ?_, ?_⟩
    · have hall := map_filter_eq_of_forall₂ h.slots (P := fun _ => true) (Q := fun _ => true)
        (fun _ _ _ => rfl) h.unplaced
      simpa using hall
    · have hall := map_filter_eq_of_forall₂ h.groups (P := fun _ => true) (Q := fun _ => true)
        (fun _ _ _ => rfl) fun f f' hf => hf.unplaced
      simpa using hall
  · next hp =>
      rw [ofParticle_of_not_offered (by simpa using hp), ofParticle_nothing]
      exact ⟨fun _ _ => rfl, rfl, rfl⟩

end Model

end OfficeSchema
