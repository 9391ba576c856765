import TemplateQuery.Clause
import TemplateQuery.Clause.Ahead
import TemplateQuery.Clause.Compiler
import TemplateQuery.Command
import TemplateQuery.Command.Arguments
import TemplateQuery.DateTime
import TemplateQuery.DateTime.Calendar
import TemplateQuery.DateTime.Reader
import TemplateQuery.Digest.Block
import TemplateQuery.Digest.Md5
import TemplateQuery.Digest.Sha1
import TemplateQuery.Digest.Sha2
import TemplateQuery.Eval
import TemplateQuery.Eval.Arguments
import TemplateQuery.Eval.Call
import TemplateQuery.Eval.Expression
import TemplateQuery.Eval.Number
import TemplateQuery.Eval.Term
import TemplateQuery.Eval.Text
import TemplateQuery.EvalError
import TemplateQuery.Event
import TemplateQuery.Event.Buffer
import TemplateQuery.Event.Json
import TemplateQuery.Event.Printer
import TemplateQuery.Event.Reader
import TemplateQuery.Event.Rebase
import TemplateQuery.Expression
import TemplateQuery.Expression.Function
import TemplateQuery.Expression.Operator
import TemplateQuery.Expression.Parser
import TemplateQuery.Iri
import TemplateQuery.Json
import TemplateQuery.Json.Printer
import TemplateQuery.Json.Reader
import TemplateQuery.Main
import TemplateQuery.Naming
import TemplateQuery.Naming.Label
import TemplateQuery.Naming.Registry
import TemplateQuery.Number.Binary
import TemplateQuery.Number.Decimal
import TemplateQuery.Number.Digits
import TemplateQuery.Number.Double
import TemplateQuery.Number.Shortest
import TemplateQuery.Origins
import TemplateQuery.Origins.Reader
import TemplateQuery.Prologue
import TemplateQuery.Query
import TemplateQuery.Query.Parser
import TemplateQuery.ReadError
import TemplateQuery.Regex.Age
import TemplateQuery.Regex.Category
import TemplateQuery.Regex.Derived
import TemplateQuery.Regex.GraphemeBreak
import TemplateQuery.Regex.Letter
import TemplateQuery.Regex.Listed
import TemplateQuery.Regex.Match
import TemplateQuery.Regex.Parser
import TemplateQuery.Regex.Pattern
import TemplateQuery.Regex.Program
import TemplateQuery.Regex.Property
import TemplateQuery.Regex.Replace
import TemplateQuery.Regex.Script
import TemplateQuery.Regex.ScriptExtension
import TemplateQuery.Regex.SentenceBreak
import TemplateQuery.Regex.Weight
import TemplateQuery.Regex.WordBreak
import TemplateQuery.Settings
import TemplateQuery.Template
import TemplateQuery.Template.Hashing
import TemplateQuery.Template.Prepare
import TemplateQuery.Template.Reader
import TemplateQuery.Term
import TemplateQuery.Term.Constant
import TemplateQuery.Term.Written
import TemplateQuery.Text.Blank
import TemplateQuery.Text.Case
import TemplateQuery.Text.CaseFold
import TemplateQuery.Text.CaseTable
import TemplateQuery.Text.CasedTable
import TemplateQuery.Text.CodeRanges
import TemplateQuery.Text.Hex
import TemplateQuery.Text.Offset
import TemplateQuery.Text.Percent
import TemplateQuery.Text.Search
import TemplateQuery.Token
import TemplateQuery.Token.Chars
import TemplateQuery.Token.Rest
import TemplateQuery.Token.Scan
import TemplateQuery.Token.Stream
import TemplateQuery.Token.Tokenize
import TemplateQuery.Toml
import TemplateQuery.Toml.Reader
import TemplateQuery.Value
import TemplateQuery.Value.Arithmetic
import TemplateQuery.Value.Cast
import TemplateQuery.Value.Order
import TemplateQuery.Vocabulary
import TemplateQuery.Proofs.Clause.Steps
import TemplateQuery.Proofs.Clause.Moves
import TemplateQuery.Proofs.Clause.Nesting
import TemplateQuery.Proofs.Clause.Alternatives
import TemplateQuery.Proofs.Clause.Grammar
import TemplateQuery.Proofs.Iri.Absolute
import TemplateQuery.Proofs.Iri.DotSegments
import TemplateQuery.Proofs.Text.Numerals
import TemplateQuery.Proofs.Text.Infix
import TemplateQuery.Proofs.Text.Splitting
import TemplateQuery.Proofs.Token.Lexing
import TemplateQuery.Proofs.Term.Lexing
import TemplateQuery.Proofs.Term.RoundTrip
import TemplateQuery.Proofs.Term.Pattern
import TemplateQuery.Proofs.Query.Inline
import TemplateQuery.Proofs.Clause.Ledger
import TemplateQuery.Proofs.Template.Table
import TemplateQuery.Proofs.Clause.Accounting
import TemplateQuery.Proofs.Clause.Lockstep
import TemplateQuery.Proofs.Clause.Trace
import TemplateQuery.Proofs.Clause.Traceable
import TemplateQuery.Proofs.Clause.Buffered
import TemplateQuery.Proofs.Clause.Acts
import TemplateQuery.Proofs.Clause.Course
import TemplateQuery.Proofs.Clause.Span
import TemplateQuery.Proofs.Clause.Floor
import TemplateQuery.Proofs.Clause.Steady
import TemplateQuery.Proofs.Clause.Joined
import TemplateQuery.Proofs.Clause.Linked
import TemplateQuery.Proofs.Clause.Siblings
import TemplateQuery.Proofs.Token.Readers
import TemplateQuery.Proofs.Token.Embedding
import TemplateQuery.Proofs.Token.Ending
import TemplateQuery.Proofs.Token.Cut
import TemplateQuery.Proofs.Token.Open
import TemplateQuery.Proofs.Eval.Rows
import TemplateQuery.Proofs.Expression.Embedding
import TemplateQuery.Proofs.Template.Header
import TemplateQuery.Proofs.Template.Inline
import TemplateQuery.Proofs.Template.Parts
import TemplateQuery.Proofs.Template.Again
import TemplateQuery.Proofs.Event.Printed
import TemplateQuery.Proofs.Origins.Notes
import TemplateQuery.Proofs.Origins.Captured
import TemplateQuery.Proofs.Token.Spans
import TemplateQuery.Proofs.Expression.Exact
import TemplateQuery.Proofs.Naming.Distinct
import TemplateQuery.Proofs.Naming.Resolving
import TemplateQuery.Proofs.Number.Digits
import TemplateQuery.Proofs.Number.Rounding
import TemplateQuery.Proofs.DateTime.Text
import TemplateQuery.Proofs.Eval.Aliases
import TemplateQuery.Proofs.Iri.Resolution
import TemplateQuery.Proofs.Template.Product
import TemplateQuery.Proofs.Naming.Violations
import TemplateQuery.Proofs.Clause.Terms
import TemplateQuery.Proofs.Event.Rebased
import TemplateQuery.Proofs.Eval.Rounded
import TemplateQuery.Proofs.Value.Lexical
import TemplateQuery.Proofs.Eval.Parallel
import TemplateQuery.Proofs.Eval.Labels
import TemplateQuery.Proofs.Token.FinalDot
import TemplateQuery.Proofs.Number.Canonical
import TemplateQuery.Proofs.Value.Scales
import TemplateQuery.Proofs.Eval.Membership
import TemplateQuery.Proofs.Iri.Rewriting
import TemplateQuery.Proofs.Eval.Cutting
import TemplateQuery.Proofs.Text.Pairs
import TemplateQuery.Proofs.Template.Identity
import TemplateQuery.Proofs.Toml.Keys
import TemplateQuery.Proofs.Command.Namespaces
import TemplateQuery.Proofs.Eval.Window
import TemplateQuery.Proofs.Event.Lookahead
