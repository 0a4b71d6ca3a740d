import EstateSearch.Binary64
import EstateSearch.CommandLine.Answer
import EstateSearch.CommandLine.Basic
import EstateSearch.CommandLine.Parser
import EstateSearch.Condition.Accepts
import EstateSearch.Condition.Basic
import EstateSearch.Condition.Display
import EstateSearch.Criteria
import EstateSearch.Criteria.Json
import EstateSearch.Decimal.Digits
import EstateSearch.Decimal.Notation
import EstateSearch.Decimal.Numeral
import EstateSearch.Decimal.Shortest
import EstateSearch.Event
import EstateSearch.Field
import EstateSearch.Instant.Basic
import EstateSearch.Instant.Calendar
import EstateSearch.Instant.Parser
import EstateSearch.Instant.Printer
import EstateSearch.Json.Basic
import EstateSearch.Json.Fields
import EstateSearch.Json.Number
import EstateSearch.Json.Parser
import EstateSearch.Json.Printer
import EstateSearch.Json.Text
import EstateSearch.Limits
import EstateSearch.Main
import EstateSearch.Pattern
import EstateSearch.Pattern.Automaton
import EstateSearch.Pattern.Automaton.OneOf
import EstateSearch.Pattern.Automaton.Tally
import EstateSearch.Pattern.Automaton.Texts
import EstateSearch.Pattern.CharSet
import EstateSearch.Pattern.CharSet.Ranges
import EstateSearch.Pattern.Expression
import EstateSearch.Pattern.Meaning
import EstateSearch.Pattern.Parser
import EstateSearch.Pattern.Plan
import EstateSearch.Pattern.Property
import EstateSearch.Pattern.Property.Binary
import EstateSearch.Pattern.Property.Break
import EstateSearch.Pattern.Property.Category
import EstateSearch.Pattern.Property.Script
import EstateSearch.Pattern.Size
import EstateSearch.Pattern.Syntax
import EstateSearch.Problem
import EstateSearch.Proofs.Binary64.Integers
import EstateSearch.Proofs.Binary64.Rounding
import EstateSearch.Proofs.CommandLine.Filter
import EstateSearch.Proofs.CommandLine.Layout
import EstateSearch.Proofs.Condition.Composition
import EstateSearch.Proofs.Condition.Groups
import EstateSearch.Proofs.Condition.Leaves
import EstateSearch.Proofs.Condition.Negated
import EstateSearch.Proofs.Condition.Normal
import EstateSearch.Proofs.Condition.Range
import EstateSearch.Proofs.Condition.Shape
import EstateSearch.Proofs.Condition.Unknown
import EstateSearch.Proofs.Criteria.Revision
import EstateSearch.Proofs.Decimal.Layout
import EstateSearch.Proofs.Decimal.Numeral
import EstateSearch.Proofs.Decimal.Spelling
import EstateSearch.Proofs.Except
import EstateSearch.Proofs.Instant.Calendar
import EstateSearch.Proofs.Instant.Reading
import EstateSearch.Proofs.Json.Fields
import EstateSearch.Proofs.Json.Grammar
import EstateSearch.Proofs.Json.Number
import EstateSearch.Proofs.Json.Reading
import EstateSearch.Proofs.Json.Revision
import EstateSearch.Proofs.Json.Soundness
import EstateSearch.Proofs.Json.Text
import EstateSearch.Proofs.Query.Display
import EstateSearch.Proofs.Query.Entries
import EstateSearch.Proofs.Query.Fragments
import EstateSearch.Proofs.Query.Grammar
import EstateSearch.Proofs.Query.Join
import EstateSearch.Proofs.Query.LetterCase
import EstateSearch.Proofs.Query.ShortTerms
import EstateSearch.Proofs.Query.StrayQuote
import EstateSearch.Proofs.Record.Json
import EstateSearch.Proofs.Search.Agreement
import EstateSearch.Proofs.Search.Columns
import EstateSearch.Proofs.Search.Join
import EstateSearch.Proofs.Search.Leaves
import EstateSearch.Proofs.Search.LetterCase
import EstateSearch.Proofs.Search.Limits
import EstateSearch.Proofs.Search.Normal
import EstateSearch.Proofs.Search.Policy
import EstateSearch.Proofs.Search.Quotation
import EstateSearch.Proofs.Search.Refinement
import EstateSearch.Proofs.Search.Regrouping
import EstateSearch.Proofs.Search.Shape
import EstateSearch.Proofs.Search.Size
import EstateSearch.Proofs.Search.Soundness
import EstateSearch.Proofs.Settings.Environment
import EstateSearch.Proofs.Sql.Agreement
import EstateSearch.Proofs.Sql.Clause
import EstateSearch.Proofs.Sql.Columns
import EstateSearch.Proofs.Sql.Database
import EstateSearch.Proofs.Sql.Decoding
import EstateSearch.Proofs.Sql.Escape
import EstateSearch.Proofs.Sql.Grammar
import EstateSearch.Proofs.Sql.Like
import EstateSearch.Proofs.Sql.Placeholders
import EstateSearch.Proofs.Sql.Reading
import EstateSearch.Proofs.Sql.Shape
import EstateSearch.Proofs.Sql.Token
import EstateSearch.Proofs.Sql.Tree
import EstateSearch.Proofs.Sql.Truth
import EstateSearch.Proofs.Text.Capitals
import EstateSearch.Proofs.Text.Lowercase
import EstateSearch.Proofs.Text.Passage
import EstateSearch.Proofs.Text.Separators
import EstateSearch.Proofs.Text.Trim
import EstateSearch.Proofs.Text.Words
import EstateSearch.Proofs.Value.Order
import EstateSearch.Proofs.Value.Transitivity
import EstateSearch.Query.Basic
import EstateSearch.Query.Json
import EstateSearch.Query.Parser
import EstateSearch.Record
import EstateSearch.Record.Json
import EstateSearch.Search
import EstateSearch.Settings.Basic
import EstateSearch.Settings.Environment
import EstateSearch.Settings.Json
import EstateSearch.Settings.Yaml
import EstateSearch.Sql.Fragment
import EstateSearch.Sql.Pattern
import EstateSearch.TermPolicy
import EstateSearch.Text.Age
import EstateSearch.Text.Alphabetic
import EstateSearch.Text.Blank
import EstateSearch.Text.CaseFold
import EstateSearch.Text.Casing.Table
import EstateSearch.Text.Category
import EstateSearch.Text.Category.Revision
import EstateSearch.Text.Category.Table
import EstateSearch.Text.Lowercase
import EstateSearch.Text.NamedSet
import EstateSearch.Text.Occurs
import EstateSearch.Text.Property.Table
import EstateSearch.Text.Quoted
import EstateSearch.Text.Ranges
import EstateSearch.Text.Script.Shared
import EstateSearch.Text.Script.Table
import EstateSearch.Text.Utf8
import EstateSearch.Value
import EstateSearch.Yaml.Document
import EstateSearch.Yaml.Lexer
import EstateSearch.Yaml.Mark
import EstateSearch.Yaml.Node
import EstateSearch.Yaml.Scalar
import EstateSearch.Yaml.Source
import EstateSearch.Yaml.Token
