import OfficeSchema.Catalog
import OfficeSchema.Check.Finding
import OfficeSchema.Check.Meaning
import OfficeSchema.Check.Reference
import OfficeSchema.Check.Structure
import OfficeSchema.Check.Value
import OfficeSchema.CommandLine.Arguments
import OfficeSchema.CommandLine.Command
import OfficeSchema.CommandLine.Report
import OfficeSchema.CommandLine.Run
import OfficeSchema.Declaration
import OfficeSchema.Document
import OfficeSchema.Element
import OfficeSchema.Element.Outline
import OfficeSchema.Error
import OfficeSchema.Json.Basic
import OfficeSchema.Json.Reader
import OfficeSchema.Json.Record
import OfficeSchema.Kind
import OfficeSchema.Listing.Basic
import OfficeSchema.Listing.OfJson
import OfficeSchema.Listing.Wordprocessing
import OfficeSchema.Main
import OfficeSchema.Markup.Attributes
import OfficeSchema.Markup.Escape
import OfficeSchema.Markup.Event
import OfficeSchema.Name
import OfficeSchema.Namespace.Scope
import OfficeSchema.Namespace.Table
import OfficeSchema.Package
import OfficeSchema.Particle.Basic
import OfficeSchema.Particle.Model
import OfficeSchema.Particle.Occurs
import OfficeSchema.Particle.Path
import OfficeSchema.Pattern.Automaton
import OfficeSchema.Pattern.Basic
import OfficeSchema.Pattern.CharSet
import OfficeSchema.Pattern.Property
import OfficeSchema.Pattern.Reader
import OfficeSchema.Pattern.Regex
import OfficeSchema.Proofs.Content.Acceptance
import OfficeSchema.Proofs.Content.Likeness
import OfficeSchema.Proofs.Content.Parsing
import OfficeSchema.Proofs.Content.Portion
import OfficeSchema.Proofs.Content.Pruning
import OfficeSchema.Proofs.Content.Verdict
import OfficeSchema.Proofs.Document.References
import OfficeSchema.Proofs.Document.Strangers
import OfficeSchema.Proofs.Document.Typing
import OfficeSchema.Proofs.Lists
import OfficeSchema.Proofs.Meaning.Rules
import OfficeSchema.Proofs.Meaning.Sites
import OfficeSchema.Proofs.Namespace.Correspondence
import OfficeSchema.Proofs.Particle.Assembly
import OfficeSchema.Proofs.Particle.Bounds
import OfficeSchema.Proofs.Particle.Coherence
import OfficeSchema.Proofs.Particle.Legibility
import OfficeSchema.Proofs.Particle.Members
import OfficeSchema.Proofs.Particle.Order
import OfficeSchema.Proofs.Particle.Outline
import OfficeSchema.Proofs.Particle.Paths
import OfficeSchema.Proofs.Particle.Places
import OfficeSchema.Proofs.Particle.Projection
import OfficeSchema.Proofs.Particle.Words
import OfficeSchema.Proofs.Registry.Soundness
import OfficeSchema.Proofs.Validation.Draining
import OfficeSchema.Proofs.Validation.Ledger
import OfficeSchema.Registry
import OfficeSchema.Text.Age
import OfficeSchema.Text.Blank
import OfficeSchema.Text.Casing
import OfficeSchema.Text.Category
import OfficeSchema.Text.Property
import OfficeSchema.Text.Range
import OfficeSchema.Text.Script
import OfficeSchema.Validator
import OfficeSchema.Value.Decimal
import OfficeSchema.Value.Moment
import OfficeSchema.Value.Numeral
import OfficeSchema.Value.Octets
import OfficeSchema.Value.SimpleType
import OfficeSchema.Version
import OfficeSchema.Proofs.Registry.Building
import OfficeSchema.Proofs.Registry.Growth
import OfficeSchema.Proofs.Catalog.Loading
import OfficeSchema.Proofs.Catalog.Naming
import OfficeSchema.Proofs.Markup.Lineages
import OfficeSchema.Proofs.Document.Scoping
import OfficeSchema.Proofs.Element.Insertion
import OfficeSchema.Proofs.Element.Attributes
import OfficeSchema.Proofs.Meaning.Families
import OfficeSchema.Proofs.Validation.Entrances
import OfficeSchema.Proofs.Findings
import OfficeSchema.Proofs.Content.Course
import OfficeSchema.Proofs.Content.Counting
import OfficeSchema.Proofs.Validation.Declared
import OfficeSchema.Proofs.Content.Emptiness
import OfficeSchema.Proofs.Particle.Nesting
import OfficeSchema.Proofs.Content.Repetition
import OfficeSchema.Proofs.Content.Sequence
import OfficeSchema.Proofs.Document.Paths
import OfficeSchema.Proofs.Validation.Demand
import OfficeSchema.Proofs.Value.Conformance
import OfficeSchema.Proofs.Namespace.Registration
import OfficeSchema.Proofs.Content.Bystanders
import OfficeSchema.Proofs.Document.Locality
import OfficeSchema.Proofs.Catalog.WellFormed
import OfficeSchema.Proofs.Content.Furnishing
import OfficeSchema.Proofs.Value.Hexadecimal
import OfficeSchema.Proofs.Value.Normalization
