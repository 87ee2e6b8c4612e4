import OfficeSchema.Proofs.Lists
import OfficeSchema.Registry

namespace OfficeSchema

namespace Registry

structure Sound (r : Registry) : Prop where
  kinds : (r.entries.map (fun e => e.declaration.kind)).Nodup
  filled : ∀ e ∈ r.entries, e.content?.isSome = true ↔ e.declaration.capability = .composite

variable {r s : Registry} {d : Declaration} {ds : List Declaration} {k : Kind} {i : Identity}

theorem contains_eq_false_iff :
    r.contains k = false ↔ k ∉ r.entries.map (fun e => e.declaration.kind) := by
  simp [contains, entry?, List.find?_eq_none]

theorem Sound.register (h : r.Sound) (hd : r.contains d.kind = false) : (r.register d).Sound := by
  constructor
  · exact nodup_map_concat.mpr ⟨contains_eq_false_iff.mp hd, h.kinds⟩
  · intro e he
    rcases List.mem_append.mp he with he | he
    · exact h.filled e he
    · obtain rfl := List.mem_singleton.mp he
      cases d.capability <;> simp

/-- What accepting a declaration can do: it is passed over, or nothing speaks against it. -/
theorem accept_cases (h : r.accept d = .ok s) :
    (d.isAvailable r.version = false ∧ s = r) ∨
      (d.isAvailable r.version = true ∧ Name.isValid d.identity.localName = true ∧
        (r.namespaces.get? d.identity.namespaceId).isSome = true ∧ r.kindOf? d.identity = none ∧
        r.contains d.kind = false ∧ s = r.register d) := by
  unfold accept at h
  split at h
  · next hv => exact .inl ⟨by simpa using hv, (Except.ok.inj h).symm⟩
  · next hv =>
      split at h
      · simp at h
      · next hname =>
          split at h
          · simp at h
          · next hspace =>
              split at h
              · simp at h
              · next hi =>
                  split at h
                  · simp at h
                  · next hk =>
                      refine .inr ⟨by simpa using hv, by simpa using hname, ?_, hi,
                        by simpa using hk, (Except.ok.inj h).symm⟩
                      simpa [Option.isSome_iff_ne_none] using hspace

theorem Sound.accept (h : r.Sound) (hs : r.accept d = .ok s) : s.Sound := by
  rcases accept_cases hs with ⟨-, rfl⟩ | ⟨-, -, -, -, hd, rfl⟩
  · exact h
  · exact h.register hd

theorem Sound.acceptAll (h : r.Sound) (hs : Registry.acceptAll ds r = .ok s) : s.Sound := by
  induction ds generalizing r with
  | nil =>
      obtain rfl := Except.ok.inj hs
      exact h
  | cons d ds ih =>
      rw [Registry.acceptAll] at hs
      split at hs
      · next hd => exact ih (h.accept hd) hs
      · simp at hs

theorem sound_of_build {v : Version} {t : Namespace.Table} (h : build v t ds = .ok r) : r.Sound :=
  Sound.acceptAll ⟨by simp, by simp⟩ h

def Declares (r : Registry) (k : Kind) (i : Identity) (c : Capability) : Prop :=
  ∃ d, r.lookup? k = some d ∧ d.kind = k ∧ d.identity = i ∧ d.capability = c

theorem kind_of_lookup? (h : r.lookup? k = some d) : d.kind = k := by
  obtain ⟨e, he, rfl⟩ := Option.map_eq_some_iff.mp h
  simpa using List.find?_some he

theorem Sound.entry?_of_mem (h : r.Sound) {e : Registration} (he : e ∈ r.entries) :
    r.entry? e.declaration.kind = some e :=
  (find?_key_eq_some_iff h.kinds).mpr ⟨he, rfl⟩

theorem Sound.lookup?_of_kindOf? (h : r.Sound) (hk : r.kindOf? i = some k) :
    ∃ d, r.lookup? k = some d ∧ d.kind = k ∧ d.identity = i := by
  obtain ⟨e, he, rfl⟩ := Option.map_eq_some_iff.mp hk
  refine ⟨e.declaration, ?_, rfl, by simpa using List.find?_some he⟩
  rw [lookup?, h.entry?_of_mem (List.mem_of_find?_eq_some he)]
  rfl

theorem Sound.instantiate?_of_kindOf? (h : r.Sound) (hk : r.kindOf? i = some k) :
    ∃ c, r.instantiate? k = some (.ofNode (.typed k i c)) ∧ r.Declares k i c := by
  obtain ⟨d, hd, hkind, hi⟩ := h.lookup?_of_kindOf? hk
  exact ⟨d.capability, by simp [instantiate?, hd, hkind, hi], d, hd, hkind, hi, rfl⟩

theorem Declares.composite {c : Capability} (hd : r.Declares k i c) (h : r.Sound)
    {content : Content} (hc : r.content? k = some content) : c = .composite := by
  obtain ⟨d, hd, -, -, rfl⟩ := hd
  obtain ⟨e, he, rfl⟩ := Option.map_eq_some_iff.mp hd
  rw [content?, he, Option.bind_some] at hc
  exact (h.filled e (List.mem_of_find?_eq_some he)).mp (by rw [hc, Option.isSome_some])

end Registry

end OfficeSchema
