import OfficeSchema.Kind
import OfficeSchema.Namespace.Table
import OfficeSchema.Version

namespace OfficeSchema

inductive SchemaFault where
  | minAboveMax (min max : Nat)
  | unknownCompositor (name : String)
  | invalidPattern (source : String)
  | invalidBound (text : String)
  | other (message : String)
  deriving DecidableEq, Repr

def SchemaFault.message : SchemaFault → String
  | .minAboveMax min max => s!"minOccurs ({min}) must be lesser or equal than maxOccurs ({max})"
  | .unknownCompositor name => s!"unknown compositor '{name}'"
  | .invalidPattern source => s!"Invalid pattern '{source}'"
  | .invalidBound text => s!"invalid bound '{text}'"
  | .other message => message

structure ParseError where
  fault : SchemaFault
  location : Option String
  source : Option String
  deriving DecidableEq, Repr

namespace ParseError

def ofFault (f : SchemaFault) : ParseError := ⟨f, none, none⟩

def locate (e : ParseError) (location : String) : ParseError := { e with location := some location }

def text (e : ParseError) : String :=
  e.fault.message ++
    (e.location.map (fun l => "\n\nLocation: " ++ l)).getD "" ++
    (e.source.map (fun s => "\n\nSource:\n" ++ s)).getD ""

end ParseError

inductive MarkupFault where
  | malformed
  | badAttribute
  | badAttributeEscape
  | badTextEscape
  | unexpectedEnd
  | noRoot
  | secondRoot
  deriving DecidableEq, Repr

def MarkupFault.message : MarkupFault → String
  | .malformed => "Error parsing XML"
  | .badAttribute => "Failed to parse attribute"
  | .badAttributeEscape => "Failed to unescape attribute value"
  | .badTextEscape => "Failed to unescape text"
  | .unexpectedEnd => "unexpected end of document"
  | .noRoot => "document has no root element"
  | .secondRoot => "document has more than one root element"

inductive CatalogFault where
  | unknownBase (type base : String)
  | unknownCapability (element capability : String)
  | contentOfLeaf (element : String)
  | textOfOther (element : String)
  | unknownType (owner type : String)
  | kindTwice (kind : Kind)
  deriving DecidableEq, Repr

def CatalogFault.message : CatalogFault → String
  | .unknownBase type base => s!"simple type '{type}' has unknown base '{base}'"
  | .unknownCapability element capability =>
      s!"element '{element}' has unknown kind '{capability}'"
  | .contentOfLeaf element => s!"leaf element '{element}' cannot have a content model"
  | .textOfOther element => s!"element '{element}' is not a text leaf but declares a text type"
  | .unknownType owner type => s!"'{owner}' refers to unknown simple type '{type}'"
  | .kindTwice kind => s!"element kind '{kind.name}' is defined twice"

inductive Error where
  | partMissing (uri : String)
  | rootMissing (uri : String)
  | unsupportedVersion (text : String)
  | negativeBound (value : Int)
  | notGoverned (name : String)
  | versionMismatch (document validator : Version)
  | notInVersion (kind : Kind) (version : Version)
  | duplicateIdentity (identity : Identity) (first second : Kind)
  | schema (e : ParseError)
  | markup (f : MarkupFault)
  | invalidName (name : String)
  | naming (p : Namespace.Problem)
  | catalog (f : CatalogFault)
  | unreadable
  | malformedJson
  deriving DecidableEq, Repr, Inhabited

inductive Error.Category where
  | absentArgument
  | argumentOutOfRange
  | invalidOperation
  | content
  deriving DecidableEq, Repr

namespace Error

def category : Error → Category
  | .partMissing _ | .rootMissing _ => .absentArgument
  | .unsupportedVersion _ | .negativeBound _ | .notGoverned _ => .argumentOutOfRange
  | .versionMismatch _ _ | .notInVersion _ _ | .duplicateIdentity _ _ _ => .invalidOperation
  | _ => .content

def message : Error → String
  | .partMissing uri => s!"value cannot be absent: part '{uri}'"
  | .rootMissing uri => s!"value cannot be absent: root element of part '{uri}'"
  | .unsupportedVersion text =>
      s!"argument 'file_format' is out of range: '{text}' is not a supported file format version"
  | .negativeBound value =>
      s!"argument 'max_errors' is out of range: {value} is negative; use 0 for unlimited"
  | .notGoverned name =>
      s!"argument 'element' is out of range: '{name}' is not governed by a content model"
  | .versionMismatch document validator =>
      s!"the document is processed for {document.name} but the validator targets {validator.name}"
  | .notInVersion kind version => s!"element '{kind.name}' is not defined in {version.name}"
  | .duplicateIdentity identity first second =>
      s!"schema identity {identity.text} is registered by both '{first.name}' and '{second.name}'"
  | .schema e => "parse error: " ++ e.text
  | .markup f => "XML error: " ++ f.message
  | .invalidName name => s!"name error: Invalid NCName: '{name}'"
  | .naming p => "namespace error: " ++ p.message
  | .catalog f => "catalog error: " ++ f.message
  | .unreadable => "I/O error"
  | .malformedJson => "JSON error"

end Error

def Version.ofText (s : String) : Except Error Version :=
  match Version.ofText? s with
  | some v => .ok v
  | none => .error (.unsupportedVersion s)

def Namespace.named {α : Type} : Except Namespace.Problem α → Except Error α
  | .ok a => .ok a
  | .error p => .error (.naming p)

end OfficeSchema
