import OfficeSchema.Catalog
import OfficeSchema.Proofs.Attempts
import OfficeSchema.Proofs.Particle.Members

/-!
Content models in listings. A content model is written as one entry only, which has its levels, its
leaves and their gates; an entry is read exactly if it is what some content model with bounds in
order is written as, and then it is read as that model.
-/

namespace OfficeSchema

open Listing (ContentEntry)

namespace Listing.ContentEntry

def min : ContentEntry → Nat
  | .leaf _ min _ _ => min
  | .group _ min _ _ => min

def max : ContentEntry → Nat
  | .leaf _ _ max _ => max
  | .group _ _ max _ => max

mutual

def parts : ContentEntry → List ContentEntry
  | .leaf kind min max since => [.leaf kind min max since]
  | .group compositor min max members => .group compositor min max members :: partsOf members

def partsOf : List ContentEntry → List ContentEntry
  | [] => []
  | e :: es => parts e ++ partsOf es

end

end Listing.ContentEntry

def Occurs.Ordered (o : Occurs) : Prop := o.max = none ∨ ∃ m, o.max = some m ∧ 1 ≤ m ∧ o.min ≤ m

theorem Occurs.ofSchema_eq_ok_iff {min max : Nat} {o : Occurs} :
    ofSchema min max = .ok o ↔ o.Ordered ∧ o.min = min ∧ o.max.getD 0 = max := by
  obtain ⟨low, high⟩ := o
  by_cases hmax : max = 0
  · subst hmax
    cases high with
    | none => simp [ofSchema, Ordered, eq_comm]
    | some m => simp [ofSchema, Ordered]; omega
  · rw [ofSchema, if_neg hmax]
    split
    · cases high with
      | none => simp [Ne.symm hmax]
      | some m => simp [Ordered]; omega
    · cases high with
      | none => simp [Ne.symm hmax]
      | some m => simp [Ordered]; omega

theorem Compositor.ofName?_eq_some_iff {name : String} {c : Compositor} :
    ofName? name = some c ↔ c.name = name := by
  constructor
  · intro h
    unfold ofName? at h
    split at h
    · exact Option.some.inj h ▸ rfl
    · exact Option.some.inj h ▸ rfl
    · exact Option.some.inj h ▸ rfl
    · simp at h
  · rintro rfl
    exact ofName?_name c

namespace Particle

mutual

def entry : Particle → ContentEntry
  | .leaf l => .leaf l.kind.name l.occurs.min (l.occurs.max.getD 0) l.gate
  | .group c o members => .group c.name o.min (o.max.getD 0) (entries members)

def entries : List Particle → List ContentEntry
  | [] => []
  | p :: ps => entry p :: entries ps

end

variable {P : Particle → Prop} {p : Particle}

theorem entry_min (p : Particle) : p.entry.min = p.occurs.min := by
  cases p <;> rfl

theorem entry_max (p : Particle) : p.entry.max = p.occurs.max.getD 0 := by
  cases p <;> rfl

theorem mem_partsOf_entries {e : ContentEntry} {ps : List Particle} :
    e ∈ ContentEntry.partsOf (entries ps) ↔ ∃ p ∈ ps, e ∈ p.entry.parts := by
  induction ps with
  | nil => simp [entries, ContentEntry.partsOf]
  | cons p ps ih => simp [entries, ContentEntry.partsOf, ih]

theorem Everywhere.of_mem_parts (h : p.Everywhere P) {e : ContentEntry} (he : e ∈ p.entry.parts) :
    ∃ q : Particle, P q ∧ q.entry = e := by
  induction p with
  | leaf l =>
      obtain rfl := List.mem_singleton.mp he
      exact ⟨_, h, rfl⟩
  | group c o members ih =>
      rw [everywhere_group] at h
      rcases List.mem_cons.mp he with rfl | he
      · exact ⟨_, h.1, rfl⟩
      · obtain ⟨m, hm, he⟩ := mem_partsOf_entries.mp he
        exact ih m hm (h.2 m hm) he

/-- A particle whose bounds are in order, and that has no maximum if and only if it is written with
a maximum of zero. -/
structure Bound (p : Particle) : Prop where
  ordered : p.occurs.Ordered
  unlimited : p.occurs.max = none ↔ p.entry.max = 0

theorem bound_iff (p : Particle) : p.Bound ↔ p.occurs.Ordered := by
  refine ⟨Bound.ordered, fun h => ⟨h, ?_⟩⟩
  rw [entry_max]
  rcases h with h | ⟨m, h, hm, -⟩
  · simp [h]
  · simp [h]
    omega

theorem Bound.not_inverted (h : p.Bound) : ¬(0 < p.entry.max ∧ p.entry.max < p.entry.min) := by
  rw [entry_max, entry_min]
  rcases h.ordered with h | ⟨m, h, -, hmin⟩
  · simp [h]
  · simp [h]
    omega

end Particle

namespace Catalog

open Particle (Bound)

mutual

theorem particleOf_eq_ok_iff : (e : ContentEntry) → (p : Particle) →
    (particleOf e = .ok p ↔ p.entry = e ∧ p.Everywhere Bound)
  | .leaf kind min max since, p => by
      rw [particleOf, map_eq_ok_iff]
      constructor
      · rintro ⟨o, ho, rfl⟩
        obtain ⟨hordered, rfl, rfl⟩ := Occurs.ofSchema_eq_ok_iff.mp ho
        exact ⟨rfl, (Particle.bound_iff _).mpr hordered⟩
      · rintro ⟨hentry, hbound⟩
        cases p with
        | leaf l =>
            obtain ⟨rfl, hmin, hmax, rfl⟩ := ContentEntry.leaf.inj hentry
            exact ⟨l.occurs, Occurs.ofSchema_eq_ok_iff.mpr ⟨hbound.ordered, hmin, hmax⟩, rfl⟩
        | group c o members => simp [Particle.entry] at hentry
  | .group compositor min max members, p => by
      rw [particleOf]
      constructor
      · intro h
        split at h
        · simp at h
        · next c hc =>
            split at h
            · simp at h
            · next ps hps =>
                obtain ⟨o, ho, rfl⟩ := map_eq_ok_iff.mp h
                obtain ⟨hordered, rfl, rfl⟩ := Occurs.ofSchema_eq_ok_iff.mp ho
                obtain ⟨hentries, hbound⟩ := (particlesOf_eq_ok_iff members ps).mp hps
                rw [Particle.entry, Particle.everywhere_group, hentries,
                  Compositor.ofName?_eq_some_iff.mp hc]
                exact ⟨rfl, (Particle.bound_iff _).mpr hordered, hbound⟩
      · rintro ⟨hentry, hbound⟩
        cases p with
        | leaf l => simp [Particle.entry] at hentry
        | group c o ps =>
            obtain ⟨hname, hmin, hmax, hentries⟩ := ContentEntry.group.inj hentry
            obtain ⟨hself, hmembers⟩ := Particle.everywhere_group.mp hbound
            have ho := Occurs.ofSchema_eq_ok_iff.mpr ⟨hself.ordered, hmin, hmax⟩
            simp only [Compositor.ofName?_eq_some_iff.mpr hname,
              (particlesOf_eq_ok_iff members ps).mpr ⟨hentries, hmembers⟩, map_eq_ok_iff]
            exact ⟨o, ho, rfl⟩

theorem particlesOf_eq_ok_iff : (es : List ContentEntry) → (ps : List Particle) →
    (particlesOf es = .ok ps ↔ Particle.entries ps = es ∧ ∀ p ∈ ps, p.Everywhere Bound)
  | [], ps => by
      cases ps <;> simp [particlesOf, Particle.entries]
  | e :: es, ps => by
      rw [particlesOf]
      constructor
      · intro h
        split at h
        · simp at h
        · next p hp =>
            obtain ⟨qs, hqs, rfl⟩ := map_eq_ok_iff.mp h
            obtain ⟨hentry, hbound⟩ := (particleOf_eq_ok_iff e p).mp hp
            obtain ⟨hentries, hbounds⟩ := (particlesOf_eq_ok_iff es qs).mp hqs
            exact ⟨by rw [Particle.entries, hentry, hentries],
              List.forall_mem_cons.mpr ⟨hbound, hbounds⟩⟩
      · rintro ⟨hentries, hbounds⟩
        cases ps with
        | nil => simp [Particle.entries] at hentries
        | cons p ps =>
            obtain ⟨hentry, hrest⟩ := List.cons.inj hentries
            obtain ⟨hbound, hothers⟩ := List.forall_mem_cons.mp hbounds
            simp only [(particleOf_eq_ok_iff e p).mpr ⟨hentry, hbound⟩, map_eq_ok_iff]
            exact ⟨ps, (particlesOf_eq_ok_iff es ps).mpr ⟨hrest, hothers⟩, rfl⟩

end

end Catalog

end OfficeSchema
