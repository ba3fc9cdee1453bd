import TimelineFilter.Catalogue
import TimelineFilter.Command
import TimelineFilter.Command.Arguments
import TimelineFilter.Command.Invocation
import TimelineFilter.Context
import TimelineFilter.Field
import TimelineFilter.FileProblem
import TimelineFilter.Json
import TimelineFilter.Json.Decoder
import TimelineFilter.Json.Defect
import TimelineFilter.Json.Malformed
import TimelineFilter.Json.Piece
import TimelineFilter.Json.Reading
import TimelineFilter.Main
import TimelineFilter.Meaning
import TimelineFilter.NameMap
import TimelineFilter.Predicate
import TimelineFilter.Predicate.Level
import TimelineFilter.Predicate.Reader
import TimelineFilter.Problem
import TimelineFilter.Proofs.Accounts
import TimelineFilter.Proofs.Agreement
import TimelineFilter.Proofs.Arithmetic
import TimelineFilter.Proofs.Brackets.Expressions
import TimelineFilter.Proofs.Brackets.Matching
import TimelineFilter.Proofs.Brackets.Queries
import TimelineFilter.Proofs.Brackets.Reports
import TimelineFilter.Proofs.CanonicalText
import TimelineFilter.Proofs.CaseScope
import TimelineFilter.Proofs.Comparisons
import TimelineFilter.Proofs.Correspondence
import TimelineFilter.Proofs.Cursors
import TimelineFilter.Proofs.Denials
import TimelineFilter.Proofs.Entries
import TimelineFilter.Proofs.FirstFault
import TimelineFilter.Proofs.Grammar.Expressions
import TimelineFilter.Proofs.Grammar.Front
import TimelineFilter.Proofs.Grammar.Names
import TimelineFilter.Proofs.Grammar.Queries
import TimelineFilter.Proofs.Grammar.Sources
import TimelineFilter.Proofs.Grammar.Values
import TimelineFilter.Proofs.GrammarForm
import TimelineFilter.Proofs.Grouping
import TimelineFilter.Proofs.Invariance
import TimelineFilter.Proofs.Json.Filling
import TimelineFilter.Proofs.Json.Layouts
import TimelineFilter.Proofs.Json.Pieces
import TimelineFilter.Proofs.Json.Records
import TimelineFilter.Proofs.Json.Respelling
import TimelineFilter.Proofs.Json.Trees
import TimelineFilter.Proofs.LetterCase.Predicates
import TimelineFilter.Proofs.LetterCase.Sigmas
import TimelineFilter.Proofs.LetterCase.Texts
import TimelineFilter.Proofs.LetterCase.Tokens
import TimelineFilter.Proofs.LetterCase.Widening
import TimelineFilter.Proofs.Listings
import TimelineFilter.Proofs.Membership
import TimelineFilter.Proofs.NameMaps
import TimelineFilter.Proofs.OpenQuotes
import TimelineFilter.Proofs.Quoting
import TimelineFilter.Proofs.Report.Ages
import TimelineFilter.Proofs.Report.Cells
import TimelineFilter.Proofs.Report.Columns
import TimelineFilter.Proofs.Report.Lines
import TimelineFilter.Proofs.Report.Styles
import TimelineFilter.Proofs.Runs
import TimelineFilter.Proofs.Searches
import TimelineFilter.Proofs.Settings.Changes
import TimelineFilter.Proofs.Settings.Histories
import TimelineFilter.Proofs.Settings.Keeping
import TimelineFilter.Proofs.Settings.Stored
import TimelineFilter.Proofs.Slices
import TimelineFilter.Proofs.Spelling
import TimelineFilter.Proofs.Stopping.Expressions
import TimelineFilter.Proofs.Stopping.Front
import TimelineFilter.Proofs.Stopping.Queries
import TimelineFilter.Proofs.Stopping.Sources
import TimelineFilter.Proofs.Stopping.Values
import TimelineFilter.Proofs.Suggestions
import TimelineFilter.Proofs.Tabs
import TimelineFilter.Proofs.Text.EditDistance
import TimelineFilter.Proofs.Timeline.Days
import TimelineFilter.Proofs.Timeline.IdSets
import TimelineFilter.Proofs.Timeline.Instants
import TimelineFilter.Proofs.Timeline.Respelling
import TimelineFilter.Proofs.Timeline.Snapshots
import TimelineFilter.Proofs.Toml.Distinct
import TimelineFilter.Proofs.Toml.Lines
import TimelineFilter.Proofs.Typing
import TimelineFilter.Proofs.UnknownSources
import TimelineFilter.Proofs.Verdicts
import TimelineFilter.Query
import TimelineFilter.Query.Encoding
import TimelineFilter.Regex.CharClass
import TimelineFilter.Regex.Engine
import TimelineFilter.Regex.Pattern
import TimelineFilter.Regex.Reader
import TimelineFilter.Report.Age
import TimelineFilter.Report.Check
import TimelineFilter.Report.Names
import TimelineFilter.Report.Statuses
import TimelineFilter.Report.Style
import TimelineFilter.Session
import TimelineFilter.Settings
import TimelineFilter.Settings.Stored
import TimelineFilter.Source
import TimelineFilter.Source.Reader
import TimelineFilter.Standalone
import TimelineFilter.Suggestion
import TimelineFilter.Text.AsciiCase
import TimelineFilter.Text.Blank
import TimelineFilter.Text.Decimal
import TimelineFilter.Text.Distance
import TimelineFilter.Text.Double
import TimelineFilter.Text.Fold
import TimelineFilter.Text.Hex
import TimelineFilter.Text.Likeness
import TimelineFilter.Text.Lower
import TimelineFilter.Text.Lower.Table
import TimelineFilter.Text.Ranges
import TimelineFilter.Text.Shown
import TimelineFilter.Text.Word
import TimelineFilter.Timeline.Account
import TimelineFilter.Timeline.Date
import TimelineFilter.Timeline.Encoding
import TimelineFilter.Timeline.IdSet
import TimelineFilter.Timeline.Instant
import TimelineFilter.Timeline.Snapshot
import TimelineFilter.Timeline.Status
import TimelineFilter.Timeline.User
import TimelineFilter.Token
import TimelineFilter.Token.Cursor
import TimelineFilter.Token.Front
import TimelineFilter.Token.Quoted
import TimelineFilter.Token.Scan
import TimelineFilter.Toml
import TimelineFilter.Toml.Entries
import TimelineFilter.Toml.Quoted
import TimelineFilter.Toml.Reader
import TimelineFilter.Toml.Scalar
import TimelineFilter.Value
import TimelineFilter.Value.Reader
import TimelineFilter.ValueType
import TimelineFilter.Wording
