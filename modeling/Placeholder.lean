import Placeholder.Complaint
import Placeholder.Config.Basic
import Placeholder.Config.Draft
import Placeholder.Config.Validation
import Placeholder.Engine.Diagnostic
import Placeholder.Engine.Strict
import Placeholder.Fault
import Placeholder.Json.Member
import Placeholder.Json.Numeral
import Placeholder.Json.Reading
import Placeholder.Json.Scalar
import Placeholder.Json.Single
import Placeholder.Json.Stop
import Placeholder.Log
import Placeholder.Marker.Basic
import Placeholder.Marker.Division
import Placeholder.Marker.Scan
import Placeholder.Number.Binary
import Placeholder.Number.Decimal
import Placeholder.Parsed
import Placeholder.Proofs.Agreement
import Placeholder.Proofs.Commutation
import Placeholder.Proofs.Decomposition
import Placeholder.Proofs.Diagnostic.Checks
import Placeholder.Proofs.Diagnostic.Denial
import Placeholder.Proofs.Diagnostic.Exactness
import Placeholder.Proofs.Diagnostic.Message
import Placeholder.Proofs.Diagnostic.Occurrences
import Placeholder.Proofs.Diagnostic.Order
import Placeholder.Proofs.Diagnostic.Outcome
import Placeholder.Proofs.Diagnostic.Presence
import Placeholder.Proofs.Diagnostic.Records
import Placeholder.Proofs.Diagnostic.Survival
import Placeholder.Proofs.Formats
import Placeholder.Proofs.History
import Placeholder.Proofs.Identifiers
import Placeholder.Proofs.Json.Choice
import Placeholder.Proofs.Json.Config
import Placeholder.Proofs.Json.Document
import Placeholder.Proofs.Json.Grammar
import Placeholder.Proofs.Json.Joint
import Placeholder.Proofs.Json.Line
import Placeholder.Proofs.Json.Literal
import Placeholder.Proofs.Json.Settings
import Placeholder.Proofs.Line
import Placeholder.Proofs.Nesting
import Placeholder.Proofs.Pattern
import Placeholder.Proofs.Replacement
import Placeholder.Proofs.Seam
import Placeholder.Proofs.Session
import Placeholder.Proofs.Settings
import Placeholder.Proofs.Strict.Addressing
import Placeholder.Proofs.Strict.Composition
import Placeholder.Proofs.Strict.Fields
import Placeholder.Proofs.Strict.Message
import Placeholder.Proofs.Strict.Modes
import Placeholder.Proofs.Strict.Resolution
import Placeholder.Proofs.Strict.Settled
import Placeholder.Proofs.Substitution
import Placeholder.Proofs.Variables
import Placeholder.Proofs.WellMarked
import Placeholder.Proofs.Yaml.Flow
import Placeholder.Proofs.Yaml.Pairs
import Placeholder.Proofs.Yaml.Quoted
import Placeholder.Proofs.Yaml.Turn
import Placeholder.Renderer
import Placeholder.Session
import Placeholder.Source
import Placeholder.Text.Basic
import Placeholder.Text.Hidden
import Placeholder.Text.Quoted
import Placeholder.Variables
import Placeholder.Yaml.Character
import Placeholder.Yaml.Directive
import Placeholder.Yaml.Document
import Placeholder.Yaml.Event.Basic
import Placeholder.Yaml.Event.OfTokens
import Placeholder.Yaml.Fault
import Placeholder.Yaml.Implicit
import Placeholder.Yaml.Reading
import Placeholder.Yaml.Scalar.Block
import Placeholder.Yaml.Scalar.Gap
import Placeholder.Yaml.Scalar.Plain
import Placeholder.Yaml.Scalar.Quoted
import Placeholder.Yaml.Tag
import Placeholder.Yaml.Token.Basic
import Placeholder.Yaml.Token.Read
