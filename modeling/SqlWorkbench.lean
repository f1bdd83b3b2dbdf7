import SqlWorkbench.Binary.Bytes
import SqlWorkbench.Binary.Uuid
import SqlWorkbench.Calendar.Date
import SqlWorkbench.Calendar.Printer
import SqlWorkbench.Calendar.Reader
import SqlWorkbench.Codegen.Ddl
import SqlWorkbench.Codegen.Drizzle
import SqlWorkbench.Codegen.Generate
import SqlWorkbench.Codegen.Naming
import SqlWorkbench.Codegen.Prisma
import SqlWorkbench.Codegen.Snippet
import SqlWorkbench.Codegen.TableModel
import SqlWorkbench.Codegen.TypeMap
import SqlWorkbench.Codegen.TypeScript
import SqlWorkbench.CommandLine.Arguments
import SqlWorkbench.CommandLine.Execution
import SqlWorkbench.CommandLine.Invocation
import SqlWorkbench.Datum
import SqlWorkbench.Dialect
import SqlWorkbench.Json.Basic
import SqlWorkbench.Json.Decode
import SqlWorkbench.Json.Printer
import SqlWorkbench.Json.Reader
import SqlWorkbench.Keyed
import SqlWorkbench.Main
import SqlWorkbench.Number.Decimal
import SqlWorkbench.Number.Double
import SqlWorkbench.Number.Hexadecimal
import SqlWorkbench.Number.Notation
import SqlWorkbench.Number.Reading
import SqlWorkbench.Number.Rounding
import SqlWorkbench.Number.Shortest
import SqlWorkbench.Postgres.Address
import SqlWorkbench.Postgres.Cell
import SqlWorkbench.Postgres.Certificate
import SqlWorkbench.Postgres.Conninfo
import SqlWorkbench.Postgres.DataType
import SqlWorkbench.Postgres.Exchange
import SqlWorkbench.Postgres.Numeric
import SqlWorkbench.Postgres.Parameter
import SqlWorkbench.Proofs.Codegen.ClaimedNames
import SqlWorkbench.Proofs.Codegen.ClosedModules
import SqlWorkbench.Proofs.Codegen.DeclaredNames
import SqlWorkbench.Proofs.Codegen.EnumMembers
import SqlWorkbench.Proofs.Codegen.EnumValues
import SqlWorkbench.Proofs.Codegen.FreshNames
import SqlWorkbench.Proofs.Codegen.Literals
import SqlWorkbench.Proofs.Codegen.MemberNames
import SqlWorkbench.Proofs.Codegen.ModuleOutlines
import SqlWorkbench.Proofs.Codegen.NameCharacters
import SqlWorkbench.Proofs.Codegen.NameWords
import SqlWorkbench.Proofs.Codegen.NumberedLabels
import SqlWorkbench.Proofs.Codegen.PlainNames
import SqlWorkbench.Proofs.Codegen.QuotedTypes
import SqlWorkbench.Proofs.Codegen.WhereObjects
import SqlWorkbench.Proofs.Codegen.WrittenModules
import SqlWorkbench.Proofs.Json.Integers
import SqlWorkbench.Proofs.Json.Texts
import SqlWorkbench.Proofs.Number.Integers
import SqlWorkbench.Proofs.Number.ShortestDigits
import SqlWorkbench.Proofs.Number.Sign
import SqlWorkbench.Proofs.Number.WholeDoubles
import SqlWorkbench.Proofs.Postgres.BoundIntegers
import SqlWorkbench.Proofs.Postgres.Readers
import SqlWorkbench.Proofs.Query.Faults
import SqlWorkbench.Proofs.Query.Junctions
import SqlWorkbench.Proofs.Query.Quoting
import SqlWorkbench.Proofs.Query.Requests
import SqlWorkbench.Proofs.Query.Segmentation
import SqlWorkbench.Proofs.Query.Snippets
import SqlWorkbench.Proofs.Query.Styles
import SqlWorkbench.Proofs.Schema.FoldedColumns
import SqlWorkbench.Proofs.Schema.Gathering
import SqlWorkbench.Proofs.Schema.IndexGroups
import SqlWorkbench.Proofs.Schema.LinkedKeys
import SqlWorkbench.Proofs.Schema.NamedTypes
import SqlWorkbench.Proofs.Schema.QuotedLabels
import SqlWorkbench.Proofs.Schema.UniqueColumns
import SqlWorkbench.Proofs.Script.Addressing
import SqlWorkbench.Proofs.Script.Agreement
import SqlWorkbench.Proofs.Script.Calm
import SqlWorkbench.Proofs.Script.Comments
import SqlWorkbench.Proofs.Script.Composition
import SqlWorkbench.Proofs.Script.Cuts
import SqlWorkbench.Proofs.Script.Danger
import SqlWorkbench.Proofs.Script.Depth
import SqlWorkbench.Proofs.Script.Drafting
import SqlWorkbench.Proofs.Script.Inert
import SqlWorkbench.Proofs.Script.Layout
import SqlWorkbench.Proofs.Script.Lexing
import SqlWorkbench.Proofs.Script.LineEnds
import SqlWorkbench.Proofs.Script.Nesting
import SqlWorkbench.Proofs.Script.Relexing
import SqlWorkbench.Proofs.Script.Spans
import SqlWorkbench.Proofs.Script.Stability
import SqlWorkbench.Proofs.Script.Terminated
import SqlWorkbench.Proofs.Script.Transactions
import SqlWorkbench.Proofs.Session.Alterations
import SqlWorkbench.Proofs.Session.HiddenPasswords
import SqlWorkbench.Proofs.Session.History
import SqlWorkbench.Proofs.Session.KeptDrivers
import SqlWorkbench.Proofs.Session.Operations
import SqlWorkbench.Proofs.Session.Refusals
import SqlWorkbench.Proofs.Session.Retention
import SqlWorkbench.Proofs.Session.RowCounts
import SqlWorkbench.Proofs.Session.ScriptRuns
import SqlWorkbench.Proofs.Session.Traffic
import SqlWorkbench.Proofs.Session.Wordings
import SqlWorkbench.Query.Compile
import SqlWorkbench.Query.Compiled
import SqlWorkbench.Query.Error
import SqlWorkbench.Query.Expression
import SqlWorkbench.Query.Filter
import SqlWorkbench.Query.Operator
import SqlWorkbench.Query.Request
import SqlWorkbench.Query.Template
import SqlWorkbench.Schema.Catalog
import SqlWorkbench.Schema.Column
import SqlWorkbench.Schema.Constraint
import SqlWorkbench.Schema.EnumLabels
import SqlWorkbench.Schema.EnumType
import SqlWorkbench.Schema.Index
import SqlWorkbench.Schema.Rows
import SqlWorkbench.Script.Block
import SqlWorkbench.Script.Danger
import SqlWorkbench.Script.Group
import SqlWorkbench.Script.Lexeme
import SqlWorkbench.Session.Connection
import SqlWorkbench.Session.Dispatch
import SqlWorkbench.Session.Driver
import SqlWorkbench.Session.Journal
import SqlWorkbench.Session.Operation
import SqlWorkbench.Session.Redaction
import SqlWorkbench.Session.TransportError
import SqlWorkbench.Session.Wording
import SqlWorkbench.Settings
import SqlWorkbench.Text.Blank
import SqlWorkbench.Text.Casing
import SqlWorkbench.Text.CharSet
import SqlWorkbench.Text.Join
import SqlWorkbench.Text.Letter
import SqlWorkbench.Text.Printable
import SqlWorkbench.Text.Quoted
import SqlWorkbench.Text.Word
import SqlWorkbench.Toml.Basic
import SqlWorkbench.Toml.Number
import SqlWorkbench.Toml.Reader
import SqlWorkbench.Toml.Text
import SqlWorkbench.Proofs.Codegen.PlainNames
