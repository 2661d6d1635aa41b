import ScriptOutline.Analysis
import ScriptOutline.CommandLine.Arguments
import ScriptOutline.CommandLine.Reports
import ScriptOutline.CommandLine.Run
import ScriptOutline.Dialect
import ScriptOutline.Error
import ScriptOutline.Estree.Reader
import ScriptOutline.Estree.Writer
import ScriptOutline.Json.Basic
import ScriptOutline.Json.Fault
import ScriptOutline.Json.Reader
import ScriptOutline.Json.Writer
import ScriptOutline.Main
import ScriptOutline.Number.Double
import ScriptOutline.Number.Layout
import ScriptOutline.Number.Power
import ScriptOutline.Number.Reading
import ScriptOutline.Number.Shortest
import ScriptOutline.Outline.Record
import ScriptOutline.Outline.Render
import ScriptOutline.Outline.Visit
import ScriptOutline.Script.Convert
import ScriptOutline.Script.Diagnosis
import ScriptOutline.Script.Grammar.Common
import ScriptOutline.Script.Grammar.Expression
import ScriptOutline.Script.Grammar.Function
import ScriptOutline.Script.Grammar.Language
import ScriptOutline.Script.Grammar.Literal
import ScriptOutline.Script.Grammar.Markup
import ScriptOutline.Script.Grammar.Member
import ScriptOutline.Script.Grammar.Module
import ScriptOutline.Script.Grammar.Operator
import ScriptOutline.Script.Grammar.Production
import ScriptOutline.Script.Grammar.Rule
import ScriptOutline.Script.Grammar.Statement
import ScriptOutline.Script.Grammar.Strength
import ScriptOutline.Script.Grammar.Symbol
import ScriptOutline.Script.Grammar.Table
import ScriptOutline.Script.Grammar.Tabulation
import ScriptOutline.Script.Kind
import ScriptOutline.Script.Lexical.Lexer
import ScriptOutline.Script.Lexical.Longest
import ScriptOutline.Script.Lexical.Pattern
import ScriptOutline.Script.Lexical.Place
import ScriptOutline.Script.Lexical.Semicolon
import ScriptOutline.Script.Lexical.Surroundings
import ScriptOutline.Script.Lexical.Vocabulary
import ScriptOutline.Script.Parsing.Advance
import ScriptOutline.Script.Parsing.Automaton
import ScriptOutline.Script.Parsing.Constituent
import ScriptOutline.Script.Parsing.Parser
import ScriptOutline.Script.Parsing.Pieces
import ScriptOutline.Script.Parsing.Reading
import ScriptOutline.Script.Parsing.Recovery
import ScriptOutline.Script.Parsing.Stack
import ScriptOutline.Script.Parsing.Standing
import ScriptOutline.Script.Reader
import ScriptOutline.Script.Tree
import ScriptOutline.Script.Value
import ScriptOutline.Session.Command
import ScriptOutline.Session.Connection
import ScriptOutline.Session.Request
import ScriptOutline.Session.Server
import ScriptOutline.Session.Shape
import ScriptOutline.Settings
import ScriptOutline.Syntax.Literal
import ScriptOutline.Syntax.Node
import ScriptOutline.Table.Csv
import ScriptOutline.Table.Format
import ScriptOutline.Table.Html
import ScriptOutline.Table.Text
import ScriptOutline.Text.Blank
import ScriptOutline.Text.CombiningMark
import ScriptOutline.Text.Cut
import ScriptOutline.Text.Quoted
import ScriptOutline.Text.Unprintable
import ScriptOutline.Text.Utf8
import ScriptOutline.Toml.Basic
import ScriptOutline.Toml.Reader
import ScriptOutline.Toml.Scalar
import ScriptOutline.Workspace.FileSystem
import ScriptOutline.Workspace.FileTree
import ScriptOutline.Workspace.Loading
import ScriptOutline.Workspace.Path
import ScriptOutline.Proofs.Number.Exact
import ScriptOutline.Proofs.Syntax.Comparison
import ScriptOutline.Proofs.Syntax.Parts
import ScriptOutline.Proofs.Json.Retelling
import ScriptOutline.Proofs.Yields
import ScriptOutline.Proofs.Estree.Slots
import ScriptOutline.Proofs.Estree.Grammar
import ScriptOutline.Proofs.Estree.RoundTrip
import ScriptOutline.Proofs.Json.OneLine
import ScriptOutline.Proofs.Outline.Walk
import ScriptOutline.Proofs.Text.LineBreak
import ScriptOutline.Proofs.Json.NumberText
import ScriptOutline.Proofs.Json.StringText
import ScriptOutline.Proofs.Json.Rereading
import ScriptOutline.Proofs.Json.WrittenText
import ScriptOutline.Proofs.Session.Framing
import ScriptOutline.Proofs.Text.WhiteSpace
import ScriptOutline.Proofs.Session.Answers
import ScriptOutline.Proofs.Json.Nesting
import ScriptOutline.Proofs.Outline.Lines
import ScriptOutline.Proofs.Outline.Rendering
import ScriptOutline.Proofs.Outline.Congruence
import ScriptOutline.Proofs.Outline.Cost
import ScriptOutline.Proofs.Script.Grammatical
import ScriptOutline.Proofs.Estree.Nesting
import ScriptOutline.Proofs.Estree.Reading
import ScriptOutline.Proofs.Estree.WrittenLevels
import ScriptOutline.Proofs.Number.Nearest
import ScriptOutline.Proofs.Number.RoundingOrder
import ScriptOutline.Proofs.Number.Numeral
import ScriptOutline.Proofs.Number.ShortestDigits
import ScriptOutline.Proofs.Number.DisplayedNumber
import ScriptOutline.Proofs.Number.ShortestValue
import ScriptOutline.Proofs.Json.FloatRange
import ScriptOutline.Proofs.Json.FloatText
import ScriptOutline.Proofs.Syntax.Numbers
import ScriptOutline.Proofs.Number.ReadingBack
import ScriptOutline.Proofs.Json.ShortFloat
import ScriptOutline.Proofs.Estree.WrittenTree
import ScriptOutline.Proofs.Text.Cut
import ScriptOutline.Proofs.Script.KindName
import ScriptOutline.Proofs.Script.Conversion
import ScriptOutline.Proofs.Outline.ShownNumbers
import ScriptOutline.Proofs.Script.Emission
import ScriptOutline.Proofs.Script.Nesting
import ScriptOutline.Proofs.Nesting
import ScriptOutline.Proofs.Syntax.Names
import ScriptOutline.Proofs.Script.Standard
import ScriptOutline.Proofs.Script.Correspondence
import ScriptOutline.Proofs.Script.Equivalence
import ScriptOutline.Proofs.Estree.NormalForm
import ScriptOutline.Proofs.Script.KeptStatements
import ScriptOutline.Proofs.Script.Levels
import ScriptOutline.Proofs.Outline.Grouping
import ScriptOutline.Proofs.Number.DigitText
import ScriptOutline.Proofs.Script.IntegerLiteral
import ScriptOutline.Proofs.Script.StringLiteral
import ScriptOutline.Proofs.Table.CsvReading
import ScriptOutline.Proofs.Table.HtmlReading
import ScriptOutline.Proofs.Estree.Presentation
import ScriptOutline.Proofs.Workspace.Paths
import ScriptOutline.Proofs.Workspace.Listing
import ScriptOutline.Proofs.Workspace.FolderLoading
import ScriptOutline.Proofs.Outline.Flattening
import ScriptOutline.Proofs.Table.TextLines
import ScriptOutline.Proofs.Script.Comments
import ScriptOutline.Proofs.Estree.NullMembers
import ScriptOutline.Proofs.Table.ColumnLayout
import ScriptOutline.Proofs.Text.ByteOrder
import ScriptOutline.Proofs.CommandLine.Accounting
import ScriptOutline.Proofs.Outline.HiddenParts
import ScriptOutline.Proofs.Outline.Brackets
