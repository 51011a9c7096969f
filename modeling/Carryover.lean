import Carryover.Action.Basic
import Carryover.Calendar.Basic
import Carryover.Calendar.Reading
import Carryover.Calendar.Text
import Carryover.Call.Binding
import Carryover.Call.Callable
import Carryover.Call.Extract
import Carryover.Call.Signature
import Carryover.Class.Attribute
import Carryover.Class.Construct
import Carryover.Class.Decl
import Carryover.Class.Order
import Carryover.Command.Catalog
import Carryover.Command.Folder
import Carryover.Command.Help
import Carryover.Command.Item
import Carryover.Command.Path
import Carryover.Command.Report
import Carryover.Command.Request
import Carryover.Command.Words
import Carryover.Context.Merge
import Carryover.Directive
import Carryover.Entries
import Carryover.Extract
import Carryover.Failure
import Carryover.Fault
import Carryover.Field.Declaration
import Carryover.Field.Registry
import Carryover.Hint.Basic
import Carryover.Hint.Schema
import Carryover.Hint.Resolve
import Carryover.Hint.Text
import Carryover.Index
import Carryover.Json.Basic
import Carryover.Json.Fit
import Carryover.Json.OfValue
import Carryover.Json.Reader
import Carryover.Json.Scalar
import Carryover.Json.Writer
import Carryover.Main
import Carryover.Number.Decimal
import Carryover.Number.Double
import Carryover.Number.Fraction
import Carryover.Number.Layout
import Carryover.Number.Literal
import Carryover.Number.Rounding
import Carryover.Number.Shortest
import Carryover.Proofs.Action.Restore
import Carryover.Proofs.Action.Tracking
import Carryover.Proofs.Action.Updates
import Carryover.Proofs.Context.Change
import Carryover.Proofs.Context.Likeness
import Carryover.Proofs.Entries
import Carryover.Proofs.Extract.Depth
import Carryover.Proofs.Extract.Parts
import Carryover.Proofs.Extract.Writes
import Carryover.Proofs.Field.Hierarchy
import Carryover.Proofs.Field.Lookup
import Carryover.Proofs.Field.Runs
import Carryover.Proofs.Json.Number
import Carryover.Proofs.Json.RoundTrip
import Carryover.Proofs.Json.Token
import Carryover.Proofs.Number.Digits
import Carryover.Proofs.Number.Nearest
import Carryover.Proofs.Number.Shortest
import Carryover.Proofs.Operation
import Carryover.Proofs.Stored.Reading
import Carryover.Proofs.Value.Sameness
import Carryover.Session
import Carryover.Settings
import Carryover.Stored.Decode
import Carryover.Stored.Encode
import Carryover.Text.Blank
import Carryover.Text.Digit
import Carryover.Text.LetterCase
import Carryover.Text.Printable
import Carryover.Text.Quoted
import Carryover.Text.Utf8
import Carryover.Value.Basic
import Carryover.Value.Equality
import Carryover.Value.Text
import Carryover.Proofs.Field.Cache
import Carryover.Proofs.Extract.Admitted
import Carryover.Proofs.Number.Numeral
import Carryover.Proofs.Stored.Written
import Carryover.Proofs.Action.Persistence
import Carryover.Proofs.Value.Spelling
import Carryover.Proofs.Action.Unchanged
import Carryover.Proofs.Json.Numeral
import Carryover.Proofs.Json.Verbatim
import Carryover.Proofs.Stored.ClassRead
import Carryover.Proofs.Action.TypedReads
import Carryover.Proofs.Action.StoredForms
import Carryover.Proofs.Stored.Reinterpretation
import Carryover.Proofs.Stored.RoundTrip
import Carryover.Proofs.Stored.Soundness
import Carryover.Proofs.Call.Presentation
import Carryover.Proofs.Extract.Failing
import Carryover.Proofs.Json.Misfit
import Carryover.Proofs.Stored.Failures
import Carryover.Proofs.Stored.History
import Carryover.Proofs.Field.Evaluation
import Carryover.Proofs.Field.Postponed
import Carryover.Proofs.Field.ClassLevel
import Carryover.Proofs.Call.Binding
import Carryover.Proofs.Call.Arguments
import Carryover.Proofs.Context.Merging
import Carryover.Proofs.Field.Moved
import Carryover.Proofs.Field.Names
import Carryover.Proofs.Field.PrivateNames
import Carryover.Proofs.Class.Construct
import Carryover.Proofs.Class.Order
import Carryover.Proofs.Json.Composed
import Carryover.Proofs.Json.Objects
import Carryover.Proofs.Stored.FieldNames
import Carryover.Proofs.Stored.Matching
import Carryover.Proofs.Stored.Privacy
import Carryover.Proofs.Stored.Reconstruction
import Carryover.Proofs.Stored.Validation
import Carryover.Proofs.Stored.Targets
import Carryover.Proofs.Action.Documents
import Carryover.Proofs.Json.Limits
import Carryover.Proofs.Command.FileForms
import Carryover.Proofs.Command.Stray
import Carryover.Proofs.Command.Paths
import Carryover.Proofs.Command.Reporting
