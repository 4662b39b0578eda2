import Formula.BuiltIn.Functions
import Formula.BuiltIn.Numeric
import Formula.BuiltIn.Operators
import Formula.BuiltIn.Strings
import Formula.BuiltIn.Time
import Formula.BuiltIn.Trigonometry
import Formula.Calendar.Date
import Formula.Calendar.DateFields
import Formula.Calendar.DateFormat.Basic
import Formula.Calendar.DateFormat.Reader
import Formula.Calendar.DateFormat.Writer
import Formula.Calendar.Instant
import Formula.Calendar.Rfc3339
import Formula.Call
import Formula.Command.Basic
import Formula.Command.Line
import Formula.Configuration
import Formula.Decimal.Arithmetic
import Formula.Decimal.Basic
import Formula.Decimal.Binary64
import Formula.Decimal.Logarithm
import Formula.Decimal.Power
import Formula.Decimal.Reader
import Formula.Decimal.Root
import Formula.Decimal.Rounding
import Formula.Decimal.Shortest
import Formula.Decimal.Wide
import Formula.Dictionary
import Formula.EvalError
import Formula.Evaluation
import Formula.Json.Basic
import Formula.Json.Reader
import Formula.Json.Writer
import Formula.Language
import Formula.Main
import Formula.Operator
import Formula.ParseError
import Formula.Powers
import Formula.Proofs.Decimal.Finish
import Formula.Proofs.Decimal.Quotient
import Formula.Proofs.Decimal.Rounding
import Formula.Proofs.Decimal.Significant
import Formula.Proofs.Decimal.Value
import Formula.Proofs.Evaluation.Comparison
import Formula.Proofs.Evaluation.Contents
import Formula.Proofs.Evaluation.Form
import Formula.Proofs.Evaluation.Laziness
import Formula.Proofs.Evaluation.Machine
import Formula.Proofs.Evaluation.Nesting
import Formula.Proofs.Evaluation.Program
import Formula.Proofs.Evaluation.Refinement
import Formula.Proofs.Evaluation.Reports
import Formula.Proofs.Evaluation.Substitution
import Formula.Proofs.Evaluation.Surroundings
import Formula.Proofs.Evaluation.Termination
import Formula.Proofs.Parsing.Acceptance
import Formula.Proofs.Parsing.Build
import Formula.Proofs.Parsing.Faults
import Formula.Proofs.Parsing.Grammar
import Formula.Proofs.Parsing.Grouping
import Formula.Proofs.Parsing.Multiplication
import Formula.Proofs.Parsing.Nesting
import Formula.Proofs.Parsing.Postfix
import Formula.Proofs.Parsing.Precedence
import Formula.Proofs.Parsing.Reading
import Formula.Proofs.Parsing.Recasing
import Formula.Proofs.Parsing.Shape
import Formula.Proofs.Parsing.Simulation
import Formula.Proofs.Parsing.Walk
import Formula.Proofs.Parsing.WellFormed
import Formula.Proofs.Parsing.Zipper
import Formula.Proofs.Result
import Formula.Proofs.Session.Live
import Formula.Proofs.Session.Recasing
import Formula.Proofs.Session.Replay
import Formula.Proofs.Text.Capitals
import Formula.Proofs.Text.Letter
import Formula.Proofs.Token.Capitals
import Formula.Proofs.Token.Layout
import Formula.Proofs.Token.Stream
import Formula.Proofs.Token.Words
import Formula.Proofs.Tree.Nodes
import Formula.Proofs.Tree.Replacement
import Formula.Regex.Basic
import Formula.Regex.CharClass
import Formula.Regex.Escape
import Formula.Regex.Flags
import Formula.Regex.Property
import Formula.Regex.PropertyTable
import Formula.Regex.Reader
import Formula.Regex.Search
import Formula.Regex.SetReader
import Formula.Session
import Formula.Settings
import Formula.Signature
import Formula.Text.Case
import Formula.Text.CaseTable
import Formula.Text.Category
import Formula.Text.CategoryTable
import Formula.Text.Letter
import Formula.Text.ScriptTable
import Formula.Token.Basic
import Formula.Token.Scanner
import Formula.Tree.Basic
import Formula.Tree.Json
import Formula.Tree.Parser
import Formula.Value.Basic
import Formula.Value.Json
import Formula.Value.Order
import Formula.Proofs.Session.Assignments
import Formula.Proofs.Evaluation.References
import Formula.Proofs.Session.Dependencies
import Formula.Proofs.Parsing.Stacks
import Formula.Proofs.Parsing.Awaiting
import Formula.Proofs.Decimal.Numeral
import Formula.Proofs.Session.Numerals
import Formula.Proofs.Value.Exchange
import Formula.Proofs.Command.Agreement
import Formula.Proofs.Decimal.Padding
import Formula.Proofs.Decimal.Order
import Formula.Proofs.BuiltIn.Rounding
import Formula.Proofs.Value.Bindings
import Formula.Proofs.BuiltIn.Bindings
import Formula.Proofs.Evaluation.Bindings
import Formula.Proofs.Token.Number
import Formula.Proofs.Value.Order
import Formula.Proofs.Value.Equality
import Formula.Proofs.Value.Views
import Formula.Proofs.Token.Spacing
import Formula.Proofs.Parsing.Places
import Formula.Proofs.Evaluation.Switch
import Formula.Proofs.Evaluation.Plainness
import Formula.Proofs.Decimal.Power
import Formula.Proofs.BuiltIn.Power
import Formula.Proofs.BuiltIn.Extremes
import Formula.Proofs.Evaluation.Indexing
import Formula.Proofs.Calendar.Instant
import Formula.Proofs.BuiltIn.Times
import Formula.Proofs.BuiltIn.Table
import Formula.Proofs.BuiltIn.Dates
import Formula.Proofs.BuiltIn.Slices
import Formula.Proofs.Token.Operators
import Formula.Proofs.Evaluation.Arguments
import Formula.Proofs.Tree.Preorder
