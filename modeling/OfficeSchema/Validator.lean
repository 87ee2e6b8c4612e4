import OfficeSchema.Check.Meaning

/-!
Validation of elements, parts and packages. What cannot be validated is refused at once; findings
are handed out one at a time, and a part is read and checked only when its findings are asked for.
All parts share one bound on the number of findings.
-/

namespace OfficeSchema

structure Settings where
  version : Version
  /-- Most findings that one validation hands out; zero stands for no bound. -/
  bound : Nat
  deriving DecidableEq, Repr

namespace Settings

def initial : Settings := ⟨.office2007, 1000⟩

def unlimited : Settings := { initial with bound := 0 }

def boundOf (value : Int) : Except Error Nat :=
  if value < 0 then .error (.negativeBound value) else .ok value.toNat

end Settings

inductive Target where
  | element (e : Element)
  | part (uri : String)

structure Inquiry where
  registry : Registry
  package : Option Package
  bound : Nat
  pending : List Finding
  remaining : List Target
  emitted : Nat
  asked : List String

def Context.checkAll (c : Context) (root : Element) : Context :=
  (c.checkStructure root).checkMeaning root

namespace Inquiry

def begin (r : Registry) (k : Option Package) (bound : Nat) (targets : List Target) : Inquiry :=
  ⟨r, k, bound, [], targets, 0, []⟩

def isExhausted (q : Inquiry) : Bool := 0 < q.bound && q.bound ≤ q.emitted

def budget (q : Inquiry) : Nat := if q.bound = 0 then 0 else q.bound - q.emitted

def targetFindings (r : Registry) (k : Option Package) (budget : Nat) : Target → List Finding
  | .element e => ((Context.start r budget).checkAll e).ledger.findings
  | .part uri =>
      match k with
      | none => []
      | some k =>
          match (k.part? uri).bind Part.root with
          | none => []
          | some root => (((Context.start r budget).inPart k uri).checkAll root).ledger.findings

def asking : Target → List String → List String
  | .element _, asked => asked
  | .part uri, asked => uri :: asked

/-- Goes on to the next target with a finding, and hands out its first one. -/
def advance (q : Inquiry) : List Target → List String → Option Finding × Inquiry
  | [], asked => (none, { q with pending := [], remaining := [], asked := asked })
  | t :: ts, asked =>
      match targetFindings q.registry q.package q.budget t with
      | [] => advance q ts (asking t asked)
      | f :: fs =>
          (some f, { q with
            pending := fs
            remaining := ts
            emitted := q.emitted + 1
            asked := asking t asked })

def next (q : Inquiry) : Option Finding × Inquiry :=
  if q.isExhausted then (none, q)
  else match q.pending with
    | f :: fs => (some f, { q with pending := fs, emitted := q.emitted + 1 })
    | [] => advance q q.remaining q.asked

theorem remaining_advance {q p : Inquiry} {f : Finding} {ts : List Target} {asked : List String}
    (h : advance q ts asked = (some f, p)) : p.remaining.length < ts.length := by
  induction ts generalizing asked with
  | nil => simp [advance] at h
  | cons t ts ih =>
      simp only [advance] at h
      split at h
      · exact Nat.lt_succ_of_lt (ih h)
      · simp only [Prod.mk.injEq] at h
        rw [← h.2]
        exact Nat.lt_succ_self _

theorem smaller_next {q p : Inquiry} {f : Finding} (h : q.next = (some f, p)) :
    p.remaining.length < q.remaining.length ∨
      p.remaining.length = q.remaining.length ∧ p.pending.length < q.pending.length := by
  simp only [next] at h
  split at h
  · simp at h
  · split at h
    · rename_i hp
      simp only [Prod.mk.injEq] at h
      right
      rw [← h.2, hp]
      simp
    · exact Or.inl (remaining_advance h)

def drain (q : Inquiry) : List Finding × Inquiry :=
  match _h : q.next with
  | (none, p) => ([], p)
  | (some f, p) => let rest := drain p; (f :: rest.1, rest.2)
  termination_by (q.remaining.length, q.pending.length)
  decreasing_by
    have := smaller_next _h
    simp only [Prod.lex_def]
    omega

def take : Nat → Inquiry → List Finding × Inquiry
  | 0, q => ([], q)
  | n + 1, q =>
      match q.next with
      | (none, p) => ([], p)
      | (some f, p) => let rest := take n p; (f :: rest.1, rest.2)

def read (q : Inquiry) : List String := q.asked.reverse.eraseDups

end Inquiry

structure Validator where
  settings : Settings
  shelf : RegistryShelf

namespace Validator

def ofShelf (s : RegistryShelf) : Validator := ⟨.initial, s⟩

def setVersion (v : Validator) (version : Version) : Validator :=
  { v with settings := { v.settings with version := version } }

def setBound (v : Validator) (value : Int) : Except Error Validator :=
  match Settings.boundOf value with
  | .ok n => .ok { v with settings := { v.settings with bound := n } }
  | .error e => .error e

def registry (v : Validator) : Except Error Registry × Validator :=
  let (r, s) := v.shelf.ask v.settings.version
  (r, { v with shelf := s })

/-- A package whose alternative content was processed must have been processed for the version
that is validated against. -/
def checkProcessing (v : Validator) (k : Package) : Except Error Unit :=
  if k.processing != .untouched && k.target != v.settings.version then
    .error (.versionMismatch k.target v.settings.version)
  else .ok ()

def beginning (v : Validator) (objection : Except Error Unit)
    (inquiry : Registry → Except Error Inquiry) : Except Error Inquiry × Validator :=
  match objection with
  | .error e => (.error e, v)
  | .ok () =>
      match v.registry with
      | (.error e, w) => (.error e, w)
      | (.ok r, w) => (inquiry r, w)

def validatePackage (v : Validator) (k : Package) : Except Error Inquiry × Validator :=
  v.beginning (v.checkProcessing k) (fun r =>
    .ok (.begin r (some k) v.settings.bound (k.uris.map .part)))

def checkPart (k : Package) (uri : String) : Except Error Unit :=
  match k.part? uri with
  | none => .error (.partMissing uri)
  | some p => if p.root.isNone then .error (.rootMissing uri) else .ok ()

def validatePart (v : Validator) (k : Package) (uri : String) :
    Except Error Inquiry × Validator :=
  v.beginning (checkPart k uri >>= fun _ => v.checkProcessing k) (fun r =>
    .ok { Inquiry.begin r (some k) v.settings.bound [.part uri] with asked := [uri] })

def validateElement (v : Validator) (e : Element) : Except Error Inquiry × Validator :=
  match e.kind? with
  | none => (.error (.notGoverned e.name), v)
  | some k =>
      v.beginning (.ok ()) (fun r =>
        if r.contains k then .ok (.begin r none v.settings.bound [.element e])
        else .error (.notInVersion k r.version))

end Validator

end OfficeSchema
