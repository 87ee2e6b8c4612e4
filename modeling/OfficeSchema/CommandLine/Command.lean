import OfficeSchema.CommandLine.Arguments

namespace OfficeSchema.CommandLine

structure Inspection where
  catalog : Option String
  element : Option String
  version : Option String
  json : Bool
  deriving DecidableEq, Repr

structure Validation where
  files : List String
  catalog : Option String
  version : String
  bound : Int
  family : String
  json : Bool
  deriving DecidableEq, Repr

inductive Command where
  | inspect (i : Inspection)
  | validate (v : Validation)
  deriving DecidableEq, Repr

namespace Command

def inspectSwitches : List Switch :=
  [⟨"catalog", 'c', .path⟩, ⟨"element", 'e', .text⟩, ⟨"format", 'f', .text⟩,
    ⟨"json", 'j', .nothing⟩]

def validateSwitches : List Switch :=
  [⟨"catalog", 'c', .path⟩, ⟨"format", 'f', .text⟩, ⟨"max-errors", 'm', .number⟩,
    ⟨"application", 'a', .text⟩, ⟨"json", 'j', .nothing⟩]

def inspection (g : Given) : Inspection :=
  ⟨g.value? "catalog", g.value? "element", g.value? "format", g.has "json"⟩

def defaultBound : Int := 1000

def validation (g : Given) : Validation :=
  let bound := ((g.value? "max-errors").bind (fun s => Numeral.int64? s.toList)).getD defaultBound
  ⟨g.operands, g.value? "catalog", (g.value? "format").getD "Office2007", bound,
    (g.value? "application").getD "word", g.has "json"⟩

def commandNames : List String := ["inspect", "validate", "help"]

def helpStop : List String → Stop
  | [] => .help
  | name :: r =>
      if name == "help" then helpStop r
      else if commandNames.contains name && r.isEmpty then .help
      else .misuse

def headLetter : Char → Stop
  | 'h' => .help
  | 'V' => .version
  | _ => .misuse

def ofArguments : List String → Except Stop Command
  | [] => .error .bare
  | "inspect" :: r =>
      (Given.ofArguments inspectSwitches false r).map (fun g => .inspect (inspection g))
  | "validate" :: r =>
      match Given.ofArguments validateSwitches true r with
      | .error e => .error e
      | .ok g => if g.operands.isEmpty then .error .misuse else .ok (.validate (validation g))
  | "help" :: r => .error (helpStop r)
  | "--help" :: _ => .error .help
  | "--version" :: _ => .error .version
  | ["--"] => .error .bare
  | s :: _ =>
      match s.toList with
      | '-' :: c :: _ => .error (headLetter c)
      | _ => .error .misuse

end Command

end OfficeSchema.CommandLine
