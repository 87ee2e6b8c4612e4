import OfficeSchema.Document

/-!
Steps of reading a document. What one event can do to the open elements, told once, so that a
property of all documents is a property that each of these steps keeps.
-/

namespace OfficeSchema.Document

variable {r : Registry} {place : Place} {scope : Namespace.Scope} {tag : Markup.Tag}
  {o : OpenElement}

theorem nodeOf_cases (r : Registry) (place : Place) (name : String) (q : QualifiedName) :
    (∃ w, q.address = some Namespace.compatibilityAddress ∧ wrapperNamed? q.localName = some w ∧
      nodeOf r place name q = .wrapper w) ∨
    (∃ address id e, q.address = some address ∧ r.namespaces.idOf? address = some id ∧
      place.create? r ⟨id, q.localName⟩ = some e ∧ nodeOf r place name q = e.node) ∨
    nodeOf r place name q = .unknown name q.address := by
  unfold nodeOf
  dsimp only
  split
  · next w hw =>
      obtain ⟨hq, hw⟩ := Option.ite_none_right_eq_some.mp hw
      exact .inl ⟨w, beq_iff_eq.mp hq, hw, rfl⟩
  · split
    · next e he =>
        obtain ⟨i, hi, he⟩ := Option.bind_eq_some_iff.mp he
        obtain ⟨id, hid, rfl⟩ := Option.map_eq_some_iff.mp hi
        obtain ⟨address, hq, hid⟩ := Option.bind_eq_some_iff.mp hid
        exact .inr (.inl ⟨address, id, e, hq, hid, he, rfl⟩)
    · exact .inr (.inr rfl)

theorem openElement_eq_ok (h : openElement r place scope tag = .ok o) :
    ∃ pairs q attributes, tag.attributes = .ok pairs ∧
      (declareAll scope pairs).resolve (String.ofList tag.name) = .ok q ∧
      resolveAttributes r.namespaces (declareAll scope pairs) pairs = .ok attributes ∧
      o = ⟨nodeOf r place (String.ofList tag.name) q, attributes, none, [],
        modelBelow r place.model? (nodeOf r place (String.ofList tag.name) q),
        declareAll scope pairs⟩ := by
  unfold openElement at h
  split at h
  · simp at h
  · next pairs hpairs =>
      dsimp only at h
      split at h
      · simp at h
      · next q hq =>
          split at h
          · simp at h
          · next attributes hattributes =>
              exact ⟨pairs, q, attributes, hpairs, hq, hattributes, (Except.ok.inj h).symm⟩

namespace State

inductive Steps (r : Registry) (s : State) : Markup.Event → State → Prop
  | opening {tag : Markup.Tag} {o : OpenElement}
      (ho : openElement r s.place s.scope tag = .ok o) :
      Steps r s (.opening tag) { s with stack := o :: s.stack }
  | single {tag : Markup.Tag} {o : OpenElement} {t : State}
      (ho : openElement r s.place s.scope tag = .ok o) (ht : s.settle o.close = .ok t) :
      Steps r s (.single tag) t
  | closing {o : OpenElement} {os : List OpenElement} {t : State} (hs : s.stack = o :: os)
      (ht : { s with stack := os }.settle o.close = .ok t) : Steps r s .closing t
  | closed (hs : s.stack = []) : Steps r s .closing s
  | text {text u : List Char} (hu : Markup.unescape text = some u) :
      Steps r s (.text text) (s.onTop (fun o => o.appendText (String.ofList u)))
  | outside {text : List Char} (hs : s.stack = []) : Steps r s (.text text) s
  | verbatim (text : List Char) :
      Steps r s (.verbatim text) (s.onTop (fun o => o.appendText (String.ofList text)))
  | comment (text : List Char) : Steps r s (.comment text)
      (s.onTop (fun o => o.addChild (.ofNode (.comment (String.ofList text)))))
  | instruction (text : List Char) : Steps r s (.instruction text)
      (s.onTop (fun o => o.addChild (.ofNode (.instruction (String.ofList text)))))

variable {s t : State} {event : Markup.Event}

theorem steps_of_step (h : s.step r event = .ok t) : Steps r s event t := by
  cases event with
  | opening tag =>
      simp only [step] at h
      split at h
      · next ho =>
          obtain rfl := Except.ok.inj h
          exact .opening ho
      · simp at h
  | single tag =>
      simp only [step] at h
      split at h
      · next ho => exact .single ho h
      · simp at h
  | closing =>
      simp only [step] at h
      split at h
      · next hs => exact .closing hs h
      · next hs =>
          obtain rfl := Except.ok.inj h
          exact .closed hs
  | text text =>
      simp only [step] at h
      split at h
      · next hs =>
          obtain rfl := Except.ok.inj h
          exact .outside (List.isEmpty_iff.mp hs)
      · split at h
        · next hu =>
            obtain rfl := Except.ok.inj h
            exact .text hu
        · simp at h
  | verbatim text =>
      obtain rfl := Except.ok.inj h
      exact .verbatim text
  | comment text =>
      obtain rfl := Except.ok.inj h
      exact .comment text
  | instruction text =>
      obtain rfl := Except.ok.inj h
      exact .instruction text
  | malformed => simp [step] at h

end State

end OfficeSchema.Document
