import Docent.Assembly
import Docent.CommandLine.Command
import Docent.CommandLine.Given
import Docent.CommandLine.Page
import Docent.CommandLine.Report
import Docent.CommandLine.Request
import Docent.CommandLine.Run
import Docent.CommandLine.Session
import Docent.CommandLine.Snapshot
import Docent.CommandLine.Switch
import Docent.Completion.Backend
import Docent.Completion.Basic
import Docent.Discovery
import Docent.Document
import Docent.Documenter
import Docent.Extraction
import Docent.FileTree
import Docent.Grammar.Indented.Docstring
import Docent.Grammar.Indented.Expression
import Docent.Grammar.Indented.Fault
import Docent.Grammar.Indented.Parse
import Docent.Grammar.Indented.Pattern
import Docent.Grammar.Indented.Reader
import Docent.Grammar.Indented.Statement
import Docent.Grammar.Indented.StringLiteral
import Docent.Grammar.Indented.Token
import Docent.Grammar.Page.Expression
import Docent.Grammar.Page.Lexical
import Docent.Grammar.Page.Parse
import Docent.Grammar.Page.Rule
import Docent.Grammar.Page.Statement
import Docent.Grammar.Scan
import Docent.Grammar.Script.Expression
import Docent.Grammar.Script.Lexical
import Docent.Grammar.Script.Markup
import Docent.Grammar.Script.Parse
import Docent.Grammar.Script.Rule
import Docent.Grammar.Script.Semicolon
import Docent.Grammar.Script.Statement
import Docent.Grammar.Script.Types
import Docent.Grammar.Shape
import Docent.Json.Parse
import Docent.Json.Print
import Docent.Language
import Docent.Log
import Docent.Log.Format
import Docent.Log.Journal
import Docent.Main
import Docent.Number.Amount
import Docent.Number.Binary64
import Docent.Number.Numeral
import Docent.Number.Shortest
import Docent.Number.Spelled
import Docent.Number.Whole
import Docent.Outline
import Docent.Pipeline
import Docent.Prompt
import Docent.Record
import Docent.Route
import Docent.Settings.Basic
import Docent.Settings.Load
import Docent.Skeleton
import Docent.SourceText
import Docent.Text.Base64
import Docent.Text.Blank
import Docent.Text.CharacterName
import Docent.Text.CodeSet
import Docent.Text.DecimalDigit
import Docent.Text.Identifier
import Docent.Text.Margin
import Docent.Text.NameTable.Aliases
import Docent.Text.NameTable.Letters
import Docent.Text.NameTable.Pictures
import Docent.Text.NameTable.Symbols
import Docent.Text.Normal
import Docent.Text.NormalTable
import Docent.Text.Printable
import Docent.Text.Quoted
import Docent.Text.Resemblance
import Docent.Text.Terminal
import Docent.Text.Utf8
import Docent.Tree
import Docent.Value
import Docent.Value.Calendar
import Docent.Value.Number
import Docent.Workplace
import Docent.Yaml.Load
import Docent.Yaml.Mark
import Docent.Yaml.Node
import Docent.Yaml.Scalar
import Docent.Yaml.ScalarValue
import Docent.Yaml.Tag
import Docent.Yaml.Token
import Docent.Yaml.Tokens
import Docent.Proofs.Assembly
import Docent.Proofs.Retry
import Docent.Proofs.Address
import Docent.Proofs.Outline
import Docent.Proofs.Indented.Tokens
import Docent.Proofs.Indented.Keyed
import Docent.Proofs.Indented.Reading
import Docent.Proofs.Indented.Adding
import Docent.Proofs.Indented.Rules
import Docent.Proofs.Indented.Parse
import Docent.Proofs.Lines
import Docent.Proofs.Place
import Docent.Proofs.Extent
import Docent.Proofs.Page.Gaps
import Docent.Proofs.Page.Built
import Docent.Proofs.Page.Rules
import Docent.Proofs.Page.Running
import Docent.Proofs.Page.Skeleton
import Docent.Proofs.FirstFailure
import Docent.Proofs.Unseen
import Docent.Proofs.Delay
import Docent.Proofs.Usable
import Docent.Proofs.Course
import Docent.Proofs.Exhaustion
import Docent.Proofs.Stored
import Docent.Proofs.Path
import Docent.Proofs.Steps
import Docent.Proofs.Directories
import Docent.Proofs.Written
import Docent.Proofs.Follow
import Docent.Proofs.Leaves
import Docent.Proofs.Discovery
import Docent.Proofs.Share
import Docent.Proofs.Opened
import Docent.Proofs.Preview
import Docent.Proofs.Parts
import Docent.Proofs.Shape
import Docent.Proofs.Steady
import Docent.Proofs.Scan.Reading
import Docent.Proofs.Scan.Running
import Docent.Proofs.Scan.Gaps
import Docent.Proofs.Script.Built
import Docent.Proofs.Script.Keeping
import Docent.Proofs.Script.Rules
import Docent.Proofs.Script.Gaps
import Docent.Proofs.Script.Running
import Docent.Proofs.Script.Skeleton
import Docent.Proofs.Span
import Docent.Proofs.Enclosing
import Docent.Proofs.Script.Gathered
import Docent.Proofs.Script.Decorated
import Docent.Proofs.Script.Dialects
import Docent.Proofs.Origin
import Docent.Proofs.Skeleton
import Docent.Proofs.Json.Written
import Docent.Proofs.Json.Reading
import Docent.Proofs.Listing
import Docent.Proofs.Mirrored
import Docent.Proofs.Series
import Docent.Proofs.Overlooked
import Docent.Proofs.Found
import Docent.Proofs.Again
import Docent.Proofs.Rerun
import Docent.Proofs.Shown
import Docent.Proofs.Reported
import Docent.Proofs.Definition
import Docent.Proofs.Documented
import Docent.Proofs.Indented.Lone
import Docent.Proofs.Stated
import Docent.Proofs.Indented.Cut
import Docent.Proofs.Indented.Plain
import Docent.Proofs.Indented.Skeleton
import Docent.Proofs.Restored
import Docent.Proofs.Entries
import Docent.Proofs.Provided
import Docent.Proofs.Foreign
import Docent.Proofs.Refused
import Docent.Proofs.Verbatim
import Docent.Proofs.Indented.Stops
import Docent.Proofs.Indented.Near
import Docent.Proofs.Indented.Longer
import Docent.Proofs.Indented.Endings
import Docent.Proofs.Indented.Alike
import Docent.Proofs.Indented.AlikeRules
import Docent.Proofs.Indented.AlikeParse
import Docent.Proofs.Paired
import Docent.Proofs.Connection
import Docent.Proofs.Routed
import Docent.Proofs.Handlers
import Docent.Proofs.Named
import Docent.Proofs.Headings
import Docent.Proofs.Embedded
import Docent.Proofs.LineSpans
