import OfficeSchema.Proofs.Particle.Order
import OfficeSchema.Proofs.Registry.Building

namespace OfficeSchema

variable {v w : Version} {t : Namespace.Table} {ds es : List Declaration} {r s : Registry}

theorem Leaf.isAvailable_mono (hvw : w.includes v = true) {l : Leaf}
    (h : l.isAvailable v = true) : l.isAvailable w = true := by
  obtain ⟨kind, occurs, gate⟩ := l
  cases gate with
  | none => rfl
  | some gate => exact Version.includes_trans hvw h

theorem Model.mem_lookup_ofParticle {p : Particle} {k : Kind} :
    k ∈ (ofParticle v p).lookup.map Prod.fst ↔
      ∃ l ∈ p.leaves, l.isAvailable v = true ∧ l.kind = k := by
  have hkinds : (ofParticle v p).lookup.map Prod.fst = (ofParticle v p).kinds := by
    rw [lookup, List.map_map]
    rfl
  rw [hkinds, kinds_ofParticle_eq, List.mem_eraseDups]
  simp [and_assoc]

theorem Model.lookup_mono (hvw : w.includes v = true) (p : Particle) {k : Kind}
    (h : k ∈ (ofParticle v p).lookup.map Prod.fst) :
    k ∈ (ofParticle w p).lookup.map Prod.fst := by
  obtain ⟨l, hl, hv, hk⟩ := mem_lookup_ofParticle.mp h
  exact mem_lookup_ofParticle.mpr ⟨l, hl, l.isAvailable_mono hvw hv, hk⟩

namespace Registry

theorem availableIn_sublist (hvw : w.includes v = true) (ds : List Declaration) :
    (availableIn v ds).Sublist (availableIn w ds) :=
  List.monotone_filter_right ds fun _ hd => Version.includes_trans hvw hd

theorem Serves.create?_mono (hr : r.Serves v t ds) (hs : s.Serves w t es) (h : ds.Sublist es)
    {i : Identity} {x : Element} (hx : r.create? i = some x) : s.create? i = some x := by
  obtain ⟨d, hd, hi, hx⟩ := (hr.created i x).mp hx
  exact (hs.created i x).mpr ⟨d, h.subset hd, hi, hx⟩

theorem Serves.content?_mono (hr : r.Serves v t ds) (hs : s.Serves w t es) (h : ds.Sublist es)
    (hvw : w.includes v = true) {k : Kind} {c : Content} (hc : r.content? k = some c) :
    ∃ c', s.content? k = some c' ∧
      ∀ x ∈ c.model.lookup.map Prod.fst, x ∈ c'.model.lookup.map Prod.fst := by
  obtain ⟨d, hd, hk, hcomposite, rfl⟩ := (hr.filled k c).mp hc
  refine ⟨_, (hs.filled k _).mpr ⟨d, h.subset hd, hk, hcomposite, rfl⟩, fun x hx => ?_⟩
  exact Model.lookup_mono hvw _ hx

/-- Declarations that make a registry for a version make one for every earlier version, and the
later registry keeps what the earlier one holds. -/
theorem build_earlier (hvw : w.includes v = true) (h : build w t ds = .ok s) :
    ∃ r, build v t ds = .ok r ∧ (∀ i x, r.create? i = some x → s.create? i = some x) ∧
      r.declarations.Sublist s.declarations ∧
      ∀ k c, r.content? k = some c → ∃ c', s.content? k = some c' ∧
        ∀ x ∈ c.model.lookup.map Prod.fst, x ∈ c'.model.lookup.map Prod.fst := by
  have hsub := availableIn_sublist hvw ds
  obtain ⟨hw, rfl⟩ := build_eq_ok_iff.mp h
  have hv := hw.sublist hsub
  have hr := serves_ofAdmissible (v := v) hv
  have hs := serves_ofAdmissible (v := w) hw
  refine ⟨_, build_admissible hv, fun i x => hr.create?_mono hs hsub, ?_,
    fun k c => hr.content?_mono hs hsub hvw⟩
  rw [hr.listed, hs.listed]
  exact hsub

/-- A list whose items came later, and with them a heading that was planned for lists. -/
def growingList : List Declaration :=
  [{ Declaration.bare ⟨"w:list"⟩ ⟨23, "list"⟩ .composite with
      content := some (.group .sequence .once
        [.leaf ⟨⟨"w:heading"⟩, .once, none⟩, .leaf ⟨⟨"w:item"⟩, .once, some .office2013⟩]) },
    { Declaration.bare ⟨"w:item"⟩ ⟨23, "item"⟩ .text with since := .office2013 }]

theorem build_earlier_growing_list : ∃ r s, build .office2007 .standard growingList = .ok r ∧
    build .office2013 .standard growingList = .ok s ∧
    r.declarations.length = 1 ∧ s.declarations.length = 2 ∧
    r.declarations.Sublist s.declarations ∧
    s.create? ⟨23, "list"⟩ = some (.ofNode (.typed ⟨"w:list"⟩ ⟨23, "list"⟩ .composite)) := by
  have hw : Admissible .standard (availableIn .office2013 growingList) := by
    constructor <;> decide +kernel
  have hs := build_admissible hw
  obtain ⟨r, hr, hcreate, hsub, -⟩ := build_earlier (v := .office2007) rfl hs
  obtain ⟨-, rfl⟩ := build_eq_ok_iff.mp hr
  refine ⟨_, _, hr, hs, rfl, rfl, hsub, hcreate _ _ rfl⟩

end Registry

end OfficeSchema
