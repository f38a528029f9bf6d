import KeyPathQuery.Adapter
import KeyPathQuery.CommandLine.Arguments
import KeyPathQuery.CommandLine.Occurrence
import KeyPathQuery.CommandLine.Report
import KeyPathQuery.Comparison
import KeyPathQuery.Composer
import KeyPathQuery.Configuration
import KeyPathQuery.Connection
import KeyPathQuery.Dialect
import KeyPathQuery.Direction
import KeyPathQuery.Document.Pattern
import KeyPathQuery.FilterError
import KeyPathQuery.Fragment
import KeyPathQuery.Identifier
import KeyPathQuery.Installation
import KeyPathQuery.Json.Basic
import KeyPathQuery.Json.Number
import KeyPathQuery.Json.Reader
import KeyPathQuery.Json.Writer
import KeyPathQuery.KeyPath
import KeyPathQuery.KeyPath.Selection
import KeyPathQuery.Main
import KeyPathQuery.Number.Binary64
import KeyPathQuery.Number.Power
import KeyPathQuery.Number.Shortest
import KeyPathQuery.Operation
import KeyPathQuery.Phrasing
import KeyPathQuery.Phrasing.Dotted
import KeyPathQuery.Phrasing.Extraction
import KeyPathQuery.Phrasing.FunctionCall
import KeyPathQuery.Phrasing.OperatorChain
import KeyPathQuery.Phrasing.Request
import KeyPathQuery.Phrasing.RootColumn
import KeyPathQuery.Proofs.CommandLine.Asks
import KeyPathQuery.Proofs.CommandLine.OptionOrder
import KeyPathQuery.Proofs.CommandLine.ScalarFilter
import KeyPathQuery.Proofs.CommandLine.Spelling
import KeyPathQuery.Proofs.CommandLine.Stages
import KeyPathQuery.Proofs.CommandLine.ValueList
import KeyPathQuery.Proofs.Composer.Acceptance
import KeyPathQuery.Proofs.Composer.Atomicity
import KeyPathQuery.Proofs.Composer.BareTarget
import KeyPathQuery.Proofs.Composer.Baseline
import KeyPathQuery.Proofs.Composer.BoundValues
import KeyPathQuery.Proofs.Composer.Condition
import KeyPathQuery.Proofs.Composer.DocumentRun
import KeyPathQuery.Proofs.Composer.DocumentStep
import KeyPathQuery.Proofs.Composer.FailureOrder
import KeyPathQuery.Proofs.Composer.FirstFailure
import KeyPathQuery.Proofs.Composer.FragmentShape
import KeyPathQuery.Proofs.Composer.InlineEscapes
import KeyPathQuery.Proofs.Composer.InlineReading
import KeyPathQuery.Proofs.Composer.Interleaving
import KeyPathQuery.Proofs.Composer.Kind
import KeyPathQuery.Proofs.Composer.LexicalSafety
import KeyPathQuery.Proofs.Composer.Operands
import KeyPathQuery.Proofs.Composer.Reading
import KeyPathQuery.Proofs.Composer.Sorting
import KeyPathQuery.Proofs.Composer.SqlStep
import KeyPathQuery.Proofs.Composer.Step
import KeyPathQuery.Proofs.Composer.ValueSeparation
import KeyPathQuery.Proofs.Configuration.LastMatch
import KeyPathQuery.Proofs.Configuration.Saving
import KeyPathQuery.Proofs.Document.Matching
import KeyPathQuery.Proofs.Json.Descent
import KeyPathQuery.Proofs.Json.InsertedFields
import KeyPathQuery.Proofs.Json.NumberText
import KeyPathQuery.Proofs.Json.ScalarText
import KeyPathQuery.Proofs.KeyPath.DefaultAlias
import KeyPathQuery.Proofs.KeyPath.FirstDefect
import KeyPathQuery.Proofs.KeyPath.Grammar
import KeyPathQuery.Proofs.KeyPath.SelectionText
import KeyPathQuery.Proofs.Phrasing.Address
import KeyPathQuery.Proofs.Phrasing.Collect
import KeyPathQuery.Proofs.Phrasing.Meaning
import KeyPathQuery.Proofs.Phrasing.PathLiteral
import KeyPathQuery.Proofs.Registry.LastResort
import KeyPathQuery.Proofs.Registry.Refusal
import KeyPathQuery.Proofs.Registry.Selection
import KeyPathQuery.Proofs.Registry.VerbatimMatch
import KeyPathQuery.Proofs.Sql.Acceptance
import KeyPathQuery.Proofs.Sql.ConditionText
import KeyPathQuery.Proofs.Sql.Conjunct
import KeyPathQuery.Proofs.Sql.EscapedLexeme
import KeyPathQuery.Proofs.Sql.Evaluation
import KeyPathQuery.Proofs.Sql.InlineValues
import KeyPathQuery.Proofs.Sql.Lexeme
import KeyPathQuery.Proofs.Sql.LikePattern
import KeyPathQuery.Proofs.Sql.PlainExpression
import KeyPathQuery.Proofs.Sql.ReadableStatement
import KeyPathQuery.Proofs.Sql.StatementGrammar
import KeyPathQuery.Proofs.Sql.Template
import KeyPathQuery.Proofs.Sql.TemplateLexemes
import KeyPathQuery.Proofs.Sql.TokenText
import KeyPathQuery.Proofs.Text.LowerCasePart
import KeyPathQuery.Proofs.Toml.StatementText
import KeyPathQuery.Proofs.Toml.StringText
import KeyPathQuery.Query.DocumentQuery
import KeyPathQuery.Query.ForeignQuery
import KeyPathQuery.Query.SqlQuery
import KeyPathQuery.Query.Target
import KeyPathQuery.Registry
import KeyPathQuery.Sql.Acceptor
import KeyPathQuery.Sql.Compile
import KeyPathQuery.Sql.Expression
import KeyPathQuery.Sql.Grammar
import KeyPathQuery.Sql.Like
import KeyPathQuery.Sql.Literal
import KeyPathQuery.Sql.Operator
import KeyPathQuery.Sql.Parser
import KeyPathQuery.Sql.Token
import KeyPathQuery.Text
import KeyPathQuery.Text.Alphabetic
import KeyPathQuery.Text.Blank
import KeyPathQuery.Text.Cased
import KeyPathQuery.Text.CharRange
import KeyPathQuery.Text.GraphemeExtend
import KeyPathQuery.Text.Hexadecimal
import KeyPathQuery.Text.LowerCase
import KeyPathQuery.Text.LowerCaseMapping
import KeyPathQuery.Text.Printable
import KeyPathQuery.Text.Quoted
import KeyPathQuery.Toml.Basic
import KeyPathQuery.Toml.Character
import KeyPathQuery.Toml.Document
import KeyPathQuery.Toml.MomentReader
import KeyPathQuery.Toml.NumberReader
import KeyPathQuery.Toml.Statement
import KeyPathQuery.Toml.StringReader
import KeyPathQuery.Toml.Writer
