import SearchQuery.Bridge.Basic
import SearchQuery.Bridge.Relational
import SearchQuery.Calendar.Basic
import SearchQuery.Calendar.Iso
import SearchQuery.Column.Cast
import SearchQuery.Column.Condition
import SearchQuery.Command.Arguments
import SearchQuery.Command.Compose
import SearchQuery.Command.InitConfig
import SearchQuery.Command.Parse
import SearchQuery.Command.Program
import SearchQuery.Config.Basic
import SearchQuery.Config.Document
import SearchQuery.Console.Files
import SearchQuery.Console.Markup
import SearchQuery.Console.Report
import SearchQuery.Entries
import SearchQuery.Failure
import SearchQuery.Failure.Construction
import SearchQuery.FindOptions.Basic
import SearchQuery.FindOptions.Merge
import SearchQuery.Fragment
import SearchQuery.Json.Datum
import SearchQuery.Json.Reader
import SearchQuery.Json.Writer
import SearchQuery.Machine
import SearchQuery.Main
import SearchQuery.Model.Table
import SearchQuery.Number.Binary64
import SearchQuery.Number.Decimal
import SearchQuery.Number.Numeral
import SearchQuery.Number.Power
import SearchQuery.Number.Reading
import SearchQuery.Number.Shortest
import SearchQuery.Pattern.Basic
import SearchQuery.Pattern.Compile
import SearchQuery.Pattern.Defect
import SearchQuery.Pattern.Escape
import SearchQuery.Pattern.Flags
import SearchQuery.Pattern.Groups
import SearchQuery.Pattern.Input
import SearchQuery.Pattern.Reader
import SearchQuery.Pattern.Search
import SearchQuery.Proofs.Column.Settled
import SearchQuery.Proofs.Command.Assignments
import SearchQuery.Proofs.Config.RoundTrip
import SearchQuery.Proofs.Config.Settings
import SearchQuery.Proofs.Entries
import SearchQuery.Proofs.Fragment.Conjunction
import SearchQuery.Proofs.Fragment.Equality
import SearchQuery.Proofs.Fragment.Grouping
import SearchQuery.Proofs.Fragment.Nesting
import SearchQuery.Proofs.Fragment.Reflexive
import SearchQuery.Proofs.Json.Grammar
import SearchQuery.Proofs.Json.Numbers
import SearchQuery.Proofs.Json.Reading
import SearchQuery.Proofs.Json.Texts
import SearchQuery.Proofs.Merge.Alignment
import SearchQuery.Proofs.Merge.Blank
import SearchQuery.Proofs.Merge.Clauses
import SearchQuery.Proofs.Merge.Entries
import SearchQuery.Proofs.Merge.Kept
import SearchQuery.Proofs.Merge.Repeated
import SearchQuery.Proofs.Pattern.Literal
import SearchQuery.Proofs.Placeholder.Binding
import SearchQuery.Proofs.Placeholder.Inlined
import SearchQuery.Proofs.Placeholder.Numbered
import SearchQuery.Proofs.Placeholder.Position
import SearchQuery.Proofs.Placeholder.Spaced
import SearchQuery.Proofs.Placeholder.WellBound
import SearchQuery.Proofs.Query.Asking
import SearchQuery.Proofs.Query.Excluded
import SearchQuery.Proofs.Query.Found
import SearchQuery.Proofs.Query.Illegible
import SearchQuery.Proofs.Query.Legible
import SearchQuery.Proofs.Query.Meaning
import SearchQuery.Proofs.Query.Parts
import SearchQuery.Proofs.Query.RoundTrip
import SearchQuery.Proofs.Query.Scanning
import SearchQuery.Proofs.Query.Sorting
import SearchQuery.Proofs.Query.Unquoted
import SearchQuery.Proofs.Query.Words
import SearchQuery.Proofs.Search.Accessor
import SearchQuery.Proofs.Search.Alongside
import SearchQuery.Proofs.Search.Automatic
import SearchQuery.Proofs.Search.Bindable
import SearchQuery.Proofs.Search.Binding
import SearchQuery.Proofs.Search.Casters
import SearchQuery.Proofs.Search.Casting
import SearchQuery.Proofs.Search.Chain
import SearchQuery.Proofs.Search.Change
import SearchQuery.Proofs.Search.Composed
import SearchQuery.Proofs.Search.Contributed
import SearchQuery.Proofs.Search.Declared
import SearchQuery.Proofs.Search.Frame
import SearchQuery.Proofs.Search.History
import SearchQuery.Proofs.Search.Isolation
import SearchQuery.Proofs.Search.LastWrite
import SearchQuery.Proofs.Search.Lasting
import SearchQuery.Proofs.Search.Ledger
import SearchQuery.Proofs.Search.Lockstep
import SearchQuery.Proofs.Search.Membership
import SearchQuery.Proofs.Search.Offered
import SearchQuery.Proofs.Search.Operators
import SearchQuery.Proofs.Search.Rebuilt
import SearchQuery.Proofs.Search.Rewriting
import SearchQuery.Proofs.Search.Scoped
import SearchQuery.Proofs.Search.Selection
import SearchQuery.Proofs.Search.Simulation
import SearchQuery.Proofs.Search.Sought
import SearchQuery.Proofs.Sql.Columns
import SearchQuery.Proofs.Sql.Delimited
import SearchQuery.Proofs.Sql.Like
import SearchQuery.Proofs.Sql.Reading
import SearchQuery.Proofs.Sql.Truth
import SearchQuery.Proofs.Text.Scan
import SearchQuery.Proofs.Toml.Document
import SearchQuery.Proofs.Toml.Draft
import SearchQuery.Proofs.Toml.Quoted
import SearchQuery.Query.Criterion
import SearchQuery.Query.Exclusion
import SearchQuery.Query.Token
import SearchQuery.Search.Builder
import SearchQuery.Search.Callback
import SearchQuery.Search.Composition
import SearchQuery.Search.Declaration
import SearchQuery.Search.Expression
import SearchQuery.Search.Instance
import SearchQuery.Search.Schema
import SearchQuery.Search.Workspace
import SearchQuery.Statement.Bound
import SearchQuery.Statement.Loading
import SearchQuery.Statement.Placeholder
import SearchQuery.Statement.Rendered
import SearchQuery.Statement.Select
import SearchQuery.Text.Alphanumeric
import SearchQuery.Text.Blank
import SearchQuery.Text.Case
import SearchQuery.Text.Digit
import SearchQuery.Text.Hex
import SearchQuery.Text.Identifier
import SearchQuery.Text.Normal
import SearchQuery.Text.Normal.Table
import SearchQuery.Text.Printable
import SearchQuery.Text.Quoted
import SearchQuery.Text.Ranges
import SearchQuery.Text.Scan
import SearchQuery.Toml.Document
import SearchQuery.Toml.Part
import SearchQuery.Toml.Scalar
import SearchQuery.Toml.Table
import SearchQuery.Toml.Writer
import SearchQuery.Value.Basic
import SearchQuery.Value.Conversion
import SearchQuery.Value.Fragments
import SearchQuery.Value.Literal
import SearchQuery.Value.Order
