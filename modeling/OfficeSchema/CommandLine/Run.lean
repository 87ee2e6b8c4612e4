import OfficeSchema.Catalog
import OfficeSchema.CommandLine.Command
import OfficeSchema.CommandLine.Report
import OfficeSchema.Document
import OfficeSchema.Listing.Wordprocessing
import OfficeSchema.Validator

/-!
Running commands. Files are read through a function, so a run is a value: what is written to the
two streams, and a code, which is 0 for success, 1 for findings and 2 for a failure.
-/

namespace OfficeSchema.CommandLine

abbrev Files := String → Option String

def namesOn (path : String) : List (List Char) :=
  (Text.pieces (· == '/') path.toList).filter (fun s => !s.isEmpty && s != ['.'])

def Files.ofList (entries : List (String × String)) : Files := fun path =>
  if path.startsWith "/" || path.endsWith "/" then none
  else (entries.find? (fun e => namesOn e.1 == namesOn path)).map Prod.snd

structure Reply where
  code : Nat
  out : String
  err : String
  deriving DecidableEq, Repr

inductive Failure where
  | library (e : Error)
  | unknownFamily (name : String)
  | undefinedKind (name : String) (version : Version)
  deriving DecidableEq, Repr

namespace Failure

def message : Failure → String
  | .library e => e.message
  | .unknownFamily name =>
      s!"Unknown application: {name}. Use: word, spreadsheet, presentation, all"
  | .undefinedKind name version => s!"Element '{name}' is not defined in {version.name}"

def reply (f : Failure) (out : String) : Reply := ⟨2, out, s!"Error: {f.message}\n"⟩

end Failure

def library {α : Type} : Except Error α → Except Failure α
  | .ok a => .ok a
  | .error e => .error (.library e)

def printed (j : Json) : String := lines [j.pretty 0]

def readFile (files : Files) (path : String) : Except Error String :=
  match files path with
  | some s => .ok s
  | none => .error .unreadable

def loadCatalog (files : Files) : Option String → Except Error Catalog
  | some path => readFile files path >>= Catalog.ofFile path
  | none => Catalog.ofListing .wordprocessing

def versionsOf : Option String → Except Error (List Version)
  | some s => (Version.ofText s).map (fun v => [v])
  | none => .ok Version.all

def sizesOf (c : Catalog) : List Version → List (Version × Nat) × Option Error
  | [] => ([], none)
  | v :: vs =>
      match c.registry v with
      | .error e => ([], some e)
      | .ok r =>
          let rest := sizesOf c vs
          ((v, r.size) :: rest.1, rest.2)

def inspectCatalog (c : Catalog) (versions : List Version) (json : Bool) : Reply :=
  let (sizes, failure?) := sizesOf c versions
  let head := summaryHead c.namespaces.size c.size
  let text := lines (head ++ sizes.map (fun s => sizeLine s.1 s.2))
  match failure? with
  | some e => (Failure.library e).reply (if json then "" else text)
  | none => ⟨0, if json then printed (summaryJson c.namespaces.size c.size sizes) else text, ""⟩

def inspectKind (c : Catalog) (v : Version) (name : String) (json : Bool) :
    Except Failure Reply := do
  let r ← library (c.registry v)
  match r.lookup? ⟨name⟩ with
  | none => .error (.undefinedKind name v)
  | some d => .ok ⟨0, if json then printed (kindJson r d) else kindText r d, ""⟩

def Inspection.run (files : Files) (i : Inspection) : Except Failure Reply := do
  let c ← library (loadCatalog files i.catalog)
  let versions ← library (versionsOf i.version)
  match i.element with
  | some name => inspectKind c (versions.headD .office2007) name i.json
  | none => .ok (inspectCatalog c versions i.json)

def familyOf (name : String) : Except Failure Family :=
  match String.ofList (Text.lower name.toList) with
  | "excel" => .ok .spreadsheet
  | "powerpoint" => .ok .presentation
  | low =>
      match Family.ofName? low with
      | some f => .ok f
      | none => .error (.unknownFamily name)

def addParts (files : Files) (r : Registry) : List String → Package → Except Error Package
  | [], k => .ok k
  | path :: paths, k =>
      match readFile files path >>= Document.parse r with
      | .ok root => addParts files r paths (k.addPart ⟨path, some root, []⟩)
      | .error e => .error e

def Validation.run (files : Files) (v : Validation) : Except Failure Reply := do
  let version ← library (Version.ofText v.version)
  let family ← familyOf v.family
  let c ← library (loadCatalog files v.catalog)
  let validator ← library (((Validator.ofShelf c.shelf).setVersion version).setBound v.bound)
  let (registry, validator) := validator.registry
  let registry ← library registry
  let package ← library (addParts files registry v.files (.empty family))
  let inquiry ← library (validator.validatePackage package).1
  let findings := inquiry.drain.1
  let out :=
    if v.json then printed (findingsJson findings) else findingsText v.files.length version findings
  .ok ⟨if findings.isEmpty then 0 else 1, out, ""⟩

def Command.run (files : Files) (c : Command) : Reply :=
  let result := match c with
    | .inspect i => i.run files
    | .validate v => v.run files
  match result with
  | .ok r => r
  | .error f => f.reply ""

def helpText : String :=
  lines
    ["OOXML schema validation tool", "", "Usage: ooxml-schema <COMMAND>", "", "Commands:",
      "  inspect   Show the element registry built from a catalog",
      "  validate  Validate XML parts against a catalog",
      "  help      Print this message or the help of a command", "", "Options:",
      "  -h, --help     Print help", "  -V, --version  Print version"]

def misuseText : String :=
  lines ["error: unexpected or missing arguments", "", "For more information, try '--help'."]

def Stop.reply : Stop → Reply
  | .misuse => ⟨2, "", misuseText⟩
  | .bare => ⟨2, "", helpText⟩
  | .help => ⟨0, helpText, ""⟩
  | .version => ⟨0, lines [s!"ooxml-schema {libraryVersion}"], ""⟩

end OfficeSchema.CommandLine
