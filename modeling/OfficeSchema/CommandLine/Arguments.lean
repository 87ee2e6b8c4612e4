import OfficeSchema.Value.Numeral

/-!
Arguments of a command. Options have a long name and a letter; a value stands behind an equals
sign, directly behind the letter, or in the next argument. Letters of options without a value may be
put together. The first fault or request for help stops the reading.
-/

namespace OfficeSchema.CommandLine

inductive Stop where
  | misuse
  | help
  | version
  | bare
  deriving DecidableEq, Repr

/-- What an option takes: nothing, any text, a path, which is not empty, or a number of 64 bits. -/
inductive Value where
  | nothing
  | text
  | path
  | number
  deriving DecidableEq, Repr

structure Switch where
  name : String
  letter : Char
  value : Value
  deriving DecidableEq, Repr

structure Given where
  options : List (String × String)
  operands : List String
  deriving DecidableEq, Repr

namespace Given

def nothing : Given := ⟨[], []⟩

def value? (g : Given) (name : String) : Option String := g.options.lookup name

def has (g : Given) (name : String) : Bool := (g.value? name).isSome

end Given

namespace Value

def admits (v : Value) (s : String) : Bool :=
  match v with
  | .nothing | .text => true
  | .path => s != ""
  | .number => (Numeral.int64? s.toList).isSome

/-- Whether the next argument is taken as a value: what looks like an option is not, unless it is
the negative number that is looked for. -/
def takes (v : Value) (s : String) : Bool :=
  match s.toList with
  | '-' :: _ :: _ => v == .number && v.admits s
  | _ => true

end Value

def Switch.give (w : Switch) (s : String) (g : Given) : Except Stop Given :=
  if g.has w.name || !w.value.admits s then .error .misuse
  else .ok { g with options := g.options ++ [(w.name, s)] }

abbrev Pending := Given × Option Switch

def unassigned : List Char → List Char
  | '=' :: r => r
  | r => r

def letters (switches : List Switch) : List Char → Given → Except Stop Pending
  | [], g => .ok (g, none)
  | c :: r, g =>
      match switches.find? (fun w => w.letter == c) with
      | none => if c == 'h' then .error .help else .error .misuse
      | some w =>
          if w.value = .nothing then
            match w.give "" g with
            | .ok h => letters switches r h
            | .error e => .error e
          else if r.isEmpty then .ok (g, some w)
          else (w.give (String.ofList (unassigned r)) g).map (fun h => (h, none))

def long (switches : List Switch) (s : List Char) (g : Given) : Except Stop Pending :=
  let name := String.ofList (s.takeWhile (fun c => c != '='))
  let value? := (Text.cutAt '=' s).map (fun p => String.ofList p.2)
  match switches.find? (fun w => w.name == name), value? with
  | none, none => if name == "help" then .error .help else .error .misuse
  | none, some _ => .error .misuse
  | some w, none =>
      if w.value = .nothing then (w.give "" g).map (fun h => (h, none)) else .ok (g, some w)
  | some w, some v =>
      if w.value = .nothing then .error .misuse else (w.give v g).map (fun h => (h, none))

def operand (allowed : Bool) (s : String) (g : Given) : Except Stop Given :=
  if allowed && Value.path.admits s then .ok { g with operands := g.operands ++ [s] }
  else .error .misuse

def operands (allowed : Bool) : List String → Given → Except Stop Given
  | [], g => .ok g
  | s :: r, g =>
      match operand allowed s g with
      | .ok h => operands allowed r h
      | .error e => .error e

def argument (switches : List Switch) (allowed : Bool) (s : String) (g : Given) :
    Except Stop Pending :=
  match s.toList with
  | '-' :: '-' :: r => long switches r g
  | '-' :: c :: r => letters switches (c :: r) g
  | _ => (operand allowed s g).map (fun h => (h, none))

def readFrom (switches : List Switch) (allowed : Bool) : List String → Given → Except Stop Given
  | [], g => .ok g
  | s :: r, g =>
      if s == "--" then operands allowed r g
      else match argument switches allowed s g with
        | .error e => .error e
        | .ok (h, none) => readFrom switches allowed r h
        | .ok (h, some w) =>
            match r with
            | [] => .error .misuse
            | v :: t =>
                if w.value.takes v then
                  match w.give v h with
                  | .ok i => readFrom switches allowed t i
                  | .error e => .error e
                else .error .misuse

def Given.ofArguments (switches : List Switch) (operandsAllowed : Bool) (args : List String) :
    Except Stop Given :=
  readFrom switches operandsAllowed args .nothing

end OfficeSchema.CommandLine
