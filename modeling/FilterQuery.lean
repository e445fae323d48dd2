import FilterQuery.Cli.Command
import FilterQuery.Cli.Flag
import FilterQuery.Cli.Run
import FilterQuery.Compile.Compiler
import FilterQuery.Compile.Dialect
import FilterQuery.Compile.Log
import FilterQuery.Compile.Metrics
import FilterQuery.Compile.Operand
import FilterQuery.Compile.Trace
import FilterQuery.Config.Dotenv
import FilterQuery.Config.Json
import FilterQuery.Config.Settings
import FilterQuery.Config.Toml
import FilterQuery.Config.Toml.Moment
import FilterQuery.Config.Toml.Number
import FilterQuery.Config.Toml.Syntax
import FilterQuery.Config.Toml.Table
import FilterQuery.Config.Toml.Text
import FilterQuery.Config.Yaml
import FilterQuery.Decode.Decoder
import FilterQuery.Decode.Fields
import FilterQuery.Decode.Mismatch
import FilterQuery.Decode.Scalar
import FilterQuery.Decode.Source
import FilterQuery.Document.Embedded
import FilterQuery.Document.Fold
import FilterQuery.Document.Format
import FilterQuery.Document.Json
import FilterQuery.Document.Modifiers
import FilterQuery.Document.Node
import FilterQuery.Document.Operator
import FilterQuery.Document.Path
import FilterQuery.Document.ReadError
import FilterQuery.Document.Violation
import FilterQuery.Document.Yaml
import FilterQuery.Document.Yaml.Cursor
import FilterQuery.Document.Yaml.ScalarText
import FilterQuery.Document.Yaml.Scanner
import FilterQuery.Document.Yaml.Schema
import FilterQuery.Document.Yaml.Token
import FilterQuery.Document.Yaml.Tree
import FilterQuery.Main
import FilterQuery.Numeric.Binary
import FilterQuery.Numeric.DecimalText
import FilterQuery.Numeric.Extended
import FilterQuery.Numeric.Integer
import FilterQuery.Numeric.Literal
import FilterQuery.Numeric.Shortest
import FilterQuery.Numeric.Word
import FilterQuery.Proofs.Cli.CommandLine
import FilterQuery.Proofs.Cli.Jobs
import FilterQuery.Proofs.Compile.Acceptance
import FilterQuery.Proofs.Compile.Blame
import FilterQuery.Proofs.Compile.Calls
import FilterQuery.Proofs.Compile.Condition
import FilterQuery.Proofs.Compile.DataPaths
import FilterQuery.Proofs.Compile.Dialects
import FilterQuery.Proofs.Compile.FirstViolation
import FilterQuery.Proofs.Compile.Generation
import FilterQuery.Proofs.Compile.Grammar
import FilterQuery.Proofs.Compile.Inclusion
import FilterQuery.Proofs.Compile.Induction
import FilterQuery.Proofs.Compile.Located
import FilterQuery.Proofs.Compile.Matching
import FilterQuery.Proofs.Compile.Recording
import FilterQuery.Proofs.Compile.Rejection
import FilterQuery.Proofs.Compile.Restriction
import FilterQuery.Proofs.Compile.Spelling
import FilterQuery.Proofs.Compile.Traversal
import FilterQuery.Proofs.Document.Address
import FilterQuery.Proofs.Document.DataPath
import FilterQuery.Proofs.Document.Draft
import FilterQuery.Proofs.Document.Enumeration
import FilterQuery.Proofs.Document.Everywhere
import FilterQuery.Proofs.Document.Fold
import FilterQuery.Proofs.Document.FoldCalls
import FilterQuery.Proofs.Document.Formats
import FilterQuery.Proofs.Document.Json.Bodies
import FilterQuery.Proofs.Document.Json.Denoted
import FilterQuery.Proofs.Document.Json.Escapes
import FilterQuery.Proofs.Document.Json.Grammar
import FilterQuery.Proofs.Document.Json.Indexed
import FilterQuery.Proofs.Document.Json.Indexed.Strings
import FilterQuery.Proofs.Document.Json.Indexed.Values
import FilterQuery.Proofs.Document.Json.Reader
import FilterQuery.Proofs.Document.Json.Steps
import FilterQuery.Proofs.Document.Json.Strings
import FilterQuery.Proofs.Document.Json.Tree
import FilterQuery.Proofs.Document.Json.WellFormed
import FilterQuery.Proofs.Document.KeyOrder
import FilterQuery.Proofs.Document.Modifiers
import FilterQuery.Proofs.Document.Nesting
import FilterQuery.Proofs.Document.Postorder
import FilterQuery.Proofs.Document.Reordering
import FilterQuery.Proofs.Document.Spelling
import FilterQuery.Proofs.Numeric.Conversion
import FilterQuery.Proofs.Numeric.Digits
import FilterQuery.Proofs.Numeric.Exact
import FilterQuery.Proofs.Numeric.Finite
import FilterQuery.Proofs.Numeric.Nearest
import FilterQuery.Proofs.Numeric.Numeral
import FilterQuery.Proofs.Numeric.Rounding
import FilterQuery.Proofs.Query.Checking
import FilterQuery.Proofs.Query.FieldNames
import FilterQuery.Proofs.Query.Meaning
import FilterQuery.Proofs.Query.Navigation
import FilterQuery.Proofs.Query.Nesting
import FilterQuery.Proofs.Query.Paging
import FilterQuery.Proofs.Query.Ranges
import FilterQuery.Proofs.Query.Reading
import FilterQuery.Proofs.Query.Reordering
import FilterQuery.Proofs.Query.SearchTree
import FilterQuery.Proofs.Query.SortTree
import FilterQuery.Proofs.Query.Sorting
import FilterQuery.Proofs.Query.Spelling
import FilterQuery.Proofs.Query.Windows
import FilterQuery.Proofs.Results
import FilterQuery.Proofs.Search.Compiled
import FilterQuery.Proofs.Search.Expression
import FilterQuery.Proofs.Search.Fields
import FilterQuery.Proofs.Search.Meaning
import FilterQuery.Proofs.Search.Naming
import FilterQuery.Proofs.Search.Parser
import FilterQuery.Proofs.Search.ReadBack
import FilterQuery.Proofs.Search.References
import FilterQuery.Proofs.Search.Scope
import FilterQuery.Proofs.Search.Token
import FilterQuery.Proofs.Search.Unreferenced
import FilterQuery.Proofs.Sql.Arguments
import FilterQuery.Proofs.Sql.Bounds
import FilterQuery.Proofs.Sql.Columns
import FilterQuery.Proofs.Sql.Compiled
import FilterQuery.Proofs.Sql.Evaluation
import FilterQuery.Proofs.Sql.Numbering
import FilterQuery.Proofs.Sql.Parser
import FilterQuery.Proofs.Sql.ReadBack
import FilterQuery.Proofs.Sql.Rows
import FilterQuery.Proofs.Sql.Structure
import FilterQuery.Proofs.Sql.Token
import FilterQuery.Proofs.Text.ByteOrder
import FilterQuery.Proofs.Text.Quoted
import FilterQuery.Proofs.Text.Reading
import FilterQuery.Proofs.Text.Utf8
import FilterQuery.Proofs.Time.Rfc3339
import FilterQuery.Proofs.Value.Entries
import FilterQuery.Proofs.Value.Exact
import FilterQuery.Proofs.Value.Integers
import FilterQuery.Proofs.Value.Iteration
import FilterQuery.Proofs.Value.Order
import FilterQuery.Proofs.Value.Plain
import FilterQuery.Proofs.Value.Shape
import FilterQuery.Query.Engine
import FilterQuery.Query.Fields
import FilterQuery.Query.Find
import FilterQuery.Query.Order
import FilterQuery.Query.Page
import FilterQuery.Query.Predicate
import FilterQuery.Query.Querier
import FilterQuery.Query.SearchTree
import FilterQuery.Query.SortTree
import FilterQuery.Regex.CharSet
import FilterQuery.Regex.Pattern
import FilterQuery.Regex.Ranges
import FilterQuery.Regex.Reader
import FilterQuery.Regex.Tree
import FilterQuery.Search.Clause
import FilterQuery.Search.Command
import FilterQuery.Search.Dialect
import FilterQuery.Sql.Condition
import FilterQuery.Sql.Dialect
import FilterQuery.Sql.Statement
import FilterQuery.Sql.Style
import FilterQuery.Text.Base64
import FilterQuery.Text.Quoted
import FilterQuery.Text.Unicode
import FilterQuery.Text.Unicode.CaseFold
import FilterQuery.Text.Unicode.Letter
import FilterQuery.Text.Unicode.Mark
import FilterQuery.Text.Unicode.Number
import FilterQuery.Text.Unicode.Other
import FilterQuery.Text.Unicode.Punctuation
import FilterQuery.Text.Unicode.Range
import FilterQuery.Text.Unicode.Script
import FilterQuery.Text.Unicode.Separator
import FilterQuery.Text.Unicode.Symbol
import FilterQuery.Text.Utf8
import FilterQuery.Time.Calendar
import FilterQuery.Time.Instant
import FilterQuery.Value.Basic
import FilterQuery.Value.Display
import FilterQuery.Value.JsonText
import FilterQuery.Value.Number
import FilterQuery.Value.Order
import FilterQuery.Value.Shape
import FilterQuery.Value.Type
