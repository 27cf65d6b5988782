import ScriptTree.Arena.Assembly
import ScriptTree.Arena.Basic
import ScriptTree.Arena.Document
import ScriptTree.Arena.Field
import ScriptTree.Arena.Flags
import ScriptTree.Arena.Navigate
import ScriptTree.Arena.NodeList
import ScriptTree.Arena.Pool
import ScriptTree.Arena.Record
import ScriptTree.Arena.Surroundings
import ScriptTree.Ast.Draft
import ScriptTree.Ast.Node
import ScriptTree.Ast.NodeType
import ScriptTree.Command.Arguments
import ScriptTree.Command.Path
import ScriptTree.Command.Run
import ScriptTree.Command.Volume
import ScriptTree.Convert.Ascription
import ScriptTree.Convert.Basic
import ScriptTree.Convert.Binding
import ScriptTree.Convert.Class
import ScriptTree.Convert.Declaration
import ScriptTree.Convert.Error
import ScriptTree.Convert.Exchange
import ScriptTree.Convert.Expression
import ScriptTree.Convert.Function
import ScriptTree.Convert.Literal
import ScriptTree.Convert.Markup
import ScriptTree.Convert.NodeMaps
import ScriptTree.Convert.Operator
import ScriptTree.Convert.Options
import ScriptTree.Convert.Program
import ScriptTree.Convert.Recipe
import ScriptTree.Convert.Synthesis
import ScriptTree.Convert.Token
import ScriptTree.Convert.Visit
import ScriptTree.Json.Basic
import ScriptTree.Json.Printer
import ScriptTree.Json.Reader
import ScriptTree.Kind.Basic
import ScriptTree.Kind.Class
import ScriptTree.Kind.Spelling
import ScriptTree.LogFormat
import ScriptTree.Main
import ScriptTree.Number.Binary
import ScriptTree.Number.Literal
import ScriptTree.Number.Shortest
import ScriptTree.Proofs.Arena.Agreement
import ScriptTree.Proofs.Arena.Assembly
import ScriptTree.Proofs.Arena.Beginnings
import ScriptTree.Proofs.Arena.Climb
import ScriptTree.Proofs.Arena.Covering
import ScriptTree.Proofs.Arena.Deepest
import ScriptTree.Proofs.Arena.Descent
import ScriptTree.Proofs.Arena.Distinct
import ScriptTree.Proofs.Arena.Links
import ScriptTree.Proofs.Arena.MarkupNames
import ScriptTree.Proofs.Arena.Parents
import ScriptTree.Proofs.Arena.RoundTrip
import ScriptTree.Proofs.Arena.Store
import ScriptTree.Proofs.Arena.Targets
import ScriptTree.Proofs.Arena.Trees
import ScriptTree.Proofs.Arena.TypeSlots
import ScriptTree.Proofs.Ast.Fields
import ScriptTree.Proofs.Ast.Nested
import ScriptTree.Proofs.Ast.Nodes
import ScriptTree.Proofs.Ast.Relabel
import ScriptTree.Proofs.Ast.Renumber
import ScriptTree.Proofs.Command.Reports
import ScriptTree.Proofs.Convert.Beginnings
import ScriptTree.Proofs.Convert.Beginnings.Reading
import ScriptTree.Proofs.Convert.Beginnings.Rules
import ScriptTree.Proofs.Convert.ByRote
import ScriptTree.Proofs.Convert.Coherent
import ScriptTree.Proofs.Convert.Commas
import ScriptTree.Proofs.Convert.Correspondence
import ScriptTree.Proofs.Convert.Depth
import ScriptTree.Proofs.Convert.Found
import ScriptTree.Proofs.Convert.History
import ScriptTree.Proofs.Convert.Leaves
import ScriptTree.Proofs.Convert.Ledger
import ScriptTree.Proofs.Convert.Literals
import ScriptTree.Proofs.Convert.Nesting
import ScriptTree.Proofs.Convert.Nesting.Binding
import ScriptTree.Proofs.Convert.Nesting.Class
import ScriptTree.Proofs.Convert.Nesting.Declaration
import ScriptTree.Proofs.Convert.Nesting.Down
import ScriptTree.Proofs.Convert.Nesting.Exchange
import ScriptTree.Proofs.Convert.Nesting.Expression
import ScriptTree.Proofs.Convert.Nesting.Function
import ScriptTree.Proofs.Convert.Nesting.Layout
import ScriptTree.Proofs.Convert.Nesting.Markup
import ScriptTree.Proofs.Convert.Nesting.Rote
import ScriptTree.Proofs.Convert.Nesting.Visit
import ScriptTree.Proofs.Convert.Nulls
import ScriptTree.Proofs.Convert.Outcome
import ScriptTree.Proofs.Convert.Outputs
import ScriptTree.Proofs.Convert.Pairs
import ScriptTree.Proofs.Convert.Placement
import ScriptTree.Proofs.Convert.Records
import ScriptTree.Proofs.Convert.Records.Binding
import ScriptTree.Proofs.Convert.Records.Class
import ScriptTree.Proofs.Convert.Records.Declaration
import ScriptTree.Proofs.Convert.Records.Exchange
import ScriptTree.Proofs.Convert.Records.Expression
import ScriptTree.Proofs.Convert.Records.Function
import ScriptTree.Proofs.Convert.Records.Markup
import ScriptTree.Proofs.Convert.Remains
import ScriptTree.Proofs.Convert.Runs
import ScriptTree.Proofs.Convert.Sequences
import ScriptTree.Proofs.Convert.Sequences.Rules
import ScriptTree.Proofs.Convert.Sharing
import ScriptTree.Proofs.Convert.Strictness
import ScriptTree.Proofs.Convert.Tandem
import ScriptTree.Proofs.Convert.Tandem.Binding
import ScriptTree.Proofs.Convert.Tandem.Class
import ScriptTree.Proofs.Convert.Tandem.Declaration
import ScriptTree.Proofs.Convert.Tandem.Down
import ScriptTree.Proofs.Convert.Tandem.Expression
import ScriptTree.Proofs.Convert.Tandem.Likeness
import ScriptTree.Proofs.Convert.Tandem.Rote
import ScriptTree.Proofs.Convert.Tandem.Visit
import ScriptTree.Proofs.Convert.Termination
import ScriptTree.Proofs.Convert.Totality
import ScriptTree.Proofs.Convert.Visit
import ScriptTree.Proofs.Convert.Ways
import ScriptTree.Proofs.Convert.Written
import ScriptTree.Proofs.Convert.Yields
import ScriptTree.Proofs.Json.RoundTrip
import ScriptTree.Proofs.Json.Scalars
import ScriptTree.Proofs.Scan.Comments
import ScriptTree.Proofs.Scan.Escapes
import ScriptTree.Proofs.Scan.Extent
import ScriptTree.Proofs.Scan.Filter
import ScriptTree.Proofs.Scan.LineBreaks
import ScriptTree.Proofs.Scan.LongestMatch
import ScriptTree.Proofs.Scan.Names
import ScriptTree.Proofs.Scan.Operations
import ScriptTree.Proofs.Scan.Progress
import ScriptTree.Proofs.Scan.Quoted
import ScriptTree.Proofs.Scan.Rereads
import ScriptTree.Proofs.Scan.Separators
import ScriptTree.Proofs.Search
import ScriptTree.Proofs.Text.Cut
import ScriptTree.Proofs.Text.Entities
import ScriptTree.Proofs.Text.Lines
import ScriptTree.Proofs.Text.Numerals
import ScriptTree.Proofs.Text.References
import ScriptTree.Proofs.Trivia.Ambiguous
import ScriptTree.Proofs.Trivia.Comments
import ScriptTree.Proofs.Trivia.Ends
import ScriptTree.Proofs.Trivia.Lookup
import ScriptTree.Proofs.Trivia.Lossless
import ScriptTree.Proofs.Trivia.Markup
import ScriptTree.Proofs.Trivia.Names
import ScriptTree.Proofs.Trivia.NextToken
import ScriptTree.Proofs.Trivia.Queries
import ScriptTree.Proofs.Trivia.RegexParts
import ScriptTree.Proofs.Trivia.Regexes
import ScriptTree.Proofs.Trivia.Spans
import ScriptTree.Proofs.Trivia.Steps
import ScriptTree.Proofs.Trivia.Walks
import ScriptTree.Scan.Escape
import ScriptTree.Scan.Lexeme
import ScriptTree.Scan.Scanner
import ScriptTree.Scan.TokenFlags
import ScriptTree.Search
import ScriptTree.Target
import ScriptTree.Text.CharClass
import ScriptTree.Text.Entity
import ScriptTree.Text.Letter
import ScriptTree.Text.LineMap
import ScriptTree.Text.Regex
import ScriptTree.Text.Utf8
import ScriptTree.Trivia.Comment
import ScriptTree.Trivia.TokenIndex
import ScriptTree.Trivia.Walk
