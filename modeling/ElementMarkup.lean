import ElementMarkup.CallTree
import ElementMarkup.CommandLine.Arguments
import ElementMarkup.CommandLine.Options
import ElementMarkup.CommandLine.Run
import ElementMarkup.CommandLine.Usage
import ElementMarkup.Compiler
import ElementMarkup.Composition
import ElementMarkup.Cursor
import ElementMarkup.Cursor.Index
import ElementMarkup.Defaults
import ElementMarkup.Entries
import ElementMarkup.Environment
import ElementMarkup.Event
import ElementMarkup.Fault
import ElementMarkup.Fault.Arguments
import ElementMarkup.Fault.Kind
import ElementMarkup.Fault.Missing
import ElementMarkup.Fault.Problem
import ElementMarkup.Fault.Template
import ElementMarkup.FileTree
import ElementMarkup.Fragments
import ElementMarkup.Host.Constant
import ElementMarkup.Host.Expr
import ElementMarkup.Host.Language
import ElementMarkup.Host.Literal
import ElementMarkup.Host.Lowering
import ElementMarkup.Host.Printer
import ElementMarkup.Host.Reader
import ElementMarkup.Host.Transform
import ElementMarkup.Host.Word
import ElementMarkup.Host.Word.Lexer
import ElementMarkup.Host.Word.Margin
import ElementMarkup.Loader
import ElementMarkup.Main
import ElementMarkup.Markup
import ElementMarkup.Markup.Attributes
import ElementMarkup.Markup.Parser
import ElementMarkup.Number.Binary64
import ElementMarkup.Number.Numeral
import ElementMarkup.Number.Shortest
import ElementMarkup.Path
import ElementMarkup.Placeholder
import ElementMarkup.Scalar
import ElementMarkup.Snippet
import ElementMarkup.TemplateName
import ElementMarkup.Terminal
import ElementMarkup.Text.Blank
import ElementMarkup.Text.Capital
import ElementMarkup.Text.CodeRange
import ElementMarkup.Text.CombiningClass
import ElementMarkup.Text.Decomposition
import ElementMarkup.Text.Decomposition.Composite
import ElementMarkup.Text.Decomposition.StandIn
import ElementMarkup.Text.Digit
import ElementMarkup.Text.Identifier
import ElementMarkup.Text.Lines
import ElementMarkup.Text.NormalForm
import ElementMarkup.Text.Printable
import ElementMarkup.Text.Quoted
import ElementMarkup.Text.Similarity
import ElementMarkup.Text.Surrogate
import ElementMarkup.Text.Utf8
import ElementMarkup.Text.Word
import ElementMarkup.Token
import ElementMarkup.Token.Layout
import ElementMarkup.Token.Lexer
import ElementMarkup.Token.Line
import ElementMarkup.Token.TextBlock
import ElementMarkup.Proofs.Attempt
import ElementMarkup.Proofs.Print.Syntax
import ElementMarkup.Proofs.Text
import ElementMarkup.Proofs.Print.LineTokens
import ElementMarkup.Proofs.Print.SourceTokens
import ElementMarkup.Proofs.Print.RoundTrip
import ElementMarkup.Proofs.Placeholder
import ElementMarkup.Proofs.Template.Source
import ElementMarkup.Proofs.Compiler
import ElementMarkup.Proofs.Template.Compile
import ElementMarkup.Proofs.Walk
import ElementMarkup.Proofs.Interpolations
import ElementMarkup.Proofs.Frame
import ElementMarkup.Proofs.Depth
import ElementMarkup.Proofs.Include
import ElementMarkup.Proofs.Grammar
import ElementMarkup.Proofs.Parser
import ElementMarkup.Proofs.DepthLimit
import ElementMarkup.Proofs.Expansion
import ElementMarkup.Proofs.Loading
import ElementMarkup.Proofs.Congruence
import ElementMarkup.Proofs.Building
import ElementMarkup.Proofs.Standalone
import ElementMarkup.Proofs.LineEnds
import ElementMarkup.Proofs.Indentation
import ElementMarkup.Proofs.Course
import ElementMarkup.Proofs.Strict
import ElementMarkup.Proofs.Elements
import ElementMarkup.Proofs.Transform
import ElementMarkup.Proofs.FlatLists
import ElementMarkup.Proofs.Lowering
import ElementMarkup.Proofs.Fragments
import ElementMarkup.Proofs.Opacity
import ElementMarkup.Proofs.TemplateName
import ElementMarkup.Proofs.SearchPath
import ElementMarkup.Proofs.TagNames
import ElementMarkup.Proofs.References
import ElementMarkup.Proofs.Positions
import ElementMarkup.Proofs.QuotedLine
import ElementMarkup.Proofs.TreeGrammar
import ElementMarkup.Proofs.NodeOrder
import ElementMarkup.Proofs.LineColumns
import ElementMarkup.Proofs.TreePlaces
import ElementMarkup.Proofs.TagHead
import ElementMarkup.Proofs.BlockExpansion
import ElementMarkup.Proofs.FreeNumbers
import ElementMarkup.Proofs.MergedValues
import ElementMarkup.Proofs.Inheritance
import ElementMarkup.Proofs.LineNumbers
import ElementMarkup.Proofs.TextBlock
import ElementMarkup.Proofs.LineMoves
import ElementMarkup.Proofs.LoaderChoice
import ElementMarkup.Proofs.BlankLines
import ElementMarkup.Proofs.MovedTrees
import ElementMarkup.Proofs.RelativeIndentation
import ElementMarkup.Proofs.HostReader
import ElementMarkup.Proofs.ReportedFaults
import ElementMarkup.Proofs.ReportedPrograms
import ElementMarkup.Proofs.CommandLine
import ElementMarkup.Proofs.Decoration
import ElementMarkup.Proofs.Splicing
import ElementMarkup.Proofs.FormatString
