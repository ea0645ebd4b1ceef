import Gleaner.Cache
import Gleaner.Config
import Gleaner.Config.Serial
import Gleaner.Css.Selector
import Gleaner.Css.Selector.Match
import Gleaner.Css.Selector.Parser
import Gleaner.Css.Token
import Gleaner.Css.Token.Reader
import Gleaner.Demo.Basic
import Gleaner.Demo.Book
import Gleaner.Demo.Catalogue
import Gleaner.Demo.Named
import Gleaner.Demo.Shelf
import Gleaner.Demo.Storefront
import Gleaner.Document
import Gleaner.Engine
import Gleaner.Error
import Gleaner.Evaluation.Basic
import Gleaner.Evaluation.Error
import Gleaner.Evaluation.Resolve
import Gleaner.Extraction
import Gleaner.Html.Builder
import Gleaner.Html.Builder.Body
import Gleaner.Html.Builder.Foreign
import Gleaner.Html.Builder.Formatting
import Gleaner.Html.Builder.Head
import Gleaner.Html.Builder.Placement
import Gleaner.Html.Builder.Rules
import Gleaner.Html.Builder.Table
import Gleaner.Html.Element
import Gleaner.Html.Parser
import Gleaner.Html.Reference
import Gleaner.Html.Reference.Names
import Gleaner.Html.Token
import Gleaner.Html.Token.Doctype
import Gleaner.Html.Token.Reader
import Gleaner.Html.Token.Tag
import Gleaner.Html.Tree
import Gleaner.Html.Tree.Printer
import Gleaner.Json.Basic
import Gleaner.Json.Parser
import Gleaner.Json.Path
import Gleaner.Json.Path.Parser
import Gleaner.Json.Path.Report
import Gleaner.Json.Printer
import Gleaner.Main
import Gleaner.Markup
import Gleaner.Number.Basic
import Gleaner.Number.Binary64
import Gleaner.Number.Literal
import Gleaner.Number.Shortest
import Gleaner.Proofs.Rule.Cuts
import Gleaner.Proofs.Rule.Escape
import Gleaner.Proofs.Text.Blank
import Gleaner.Query
import Gleaner.Regex.Class
import Gleaner.Regex.CodeSet
import Gleaner.Regex.Escape
import Gleaner.Regex.Footprint
import Gleaner.Regex.Parser
import Gleaner.Regex.Program
import Gleaner.Regex.Reader
import Gleaner.Regex.Search
import Gleaner.Regex.Syntax
import Gleaner.Rule.Basic
import Gleaner.Rule.Build
import Gleaner.Rule.Error
import Gleaner.Rule.Escape
import Gleaner.Rule.Parser
import Gleaner.Rule.Pattern
import Gleaner.Rule.Render
import Gleaner.Rule.Segment
import Gleaner.Session
import Gleaner.Text.Blank
import Gleaner.Text.Bytes
import Gleaner.Text.Digits
import Gleaner.Text.Search
import Gleaner.Unicode.Age
import Gleaner.Unicode.Binary
import Gleaner.Unicode.Category
import Gleaner.Unicode.Folding
import Gleaner.Unicode.GraphemeBreak
import Gleaner.Unicode.Property
import Gleaner.Unicode.Ranges
import Gleaner.Unicode.Script
import Gleaner.Unicode.SentenceBreak
import Gleaner.Unicode.WordBreak
import Gleaner.Value.Basic
import Gleaner.Value.Concat
import Gleaner.Value.Sanitize
import Gleaner.Proofs.Rule.Selector
import Gleaner.Proofs.Rule.Chains
import Gleaner.Proofs.Rule.RoundTrip
import Gleaner.Proofs.Rule.Spelling
import Gleaner.Proofs.Cache.Valid
import Gleaner.Proofs.Engine.History
import Gleaner.Proofs.Cache.Interleaving
import Gleaner.Proofs.Rule.Layout
import Gleaner.Proofs.Json.Path.Grammar
import Gleaner.Proofs.Rule.Concatenation
import Gleaner.Proofs.Json.Path.Spelling
import Gleaner.Proofs.Json.Path.Nodes
import Gleaner.Proofs.Evaluation.Faults
import Gleaner.Proofs.Engine.Agreement
import Gleaner.Proofs.Rule.WellFormed
import Gleaner.Proofs.Engine.QuotedName
import Gleaner.Proofs.Cache.Requests
import Gleaner.Proofs.Engine.Requests
import Gleaner.Proofs.Engine.Shape
import Gleaner.Proofs.Json.Path.Names
import Gleaner.Proofs.Rule.BareNames
import Gleaner.Proofs.Rule.Untagged
import Gleaner.Proofs.Text.Slice
import Gleaner.Proofs.Rule.Scan
import Gleaner.Proofs.Rule.Scan.Term
import Gleaner.Proofs.Rule.Scan.Segment
import Gleaner.Proofs.Engine.InBounds
import Gleaner.Proofs.Value.Join
import Gleaner.Proofs.Evaluation.Fallback
import Gleaner.Proofs.Value.Merge
import Gleaner.Proofs.Evaluation.Operands
import Gleaner.Proofs.Engine.Reports
import Gleaner.Proofs.Evaluation.Matches
import Gleaner.Proofs.Evaluation.Policies
import Gleaner.Proofs.Evaluation.Grouping
import Gleaner.Proofs.Rule.Dangling
import Gleaner.Proofs.Json.Reading
import Gleaner.Proofs.Engine.Loading
import Gleaner.Proofs.Engine.Declared
import Gleaner.Proofs.Json.Path.Refusal
import Gleaner.Proofs.Evaluation.LoneArray
import Gleaner.Proofs.Regex.Threads
import Gleaner.Proofs.Regex.Scan
import Gleaner.Proofs.Regex.Alone
import Gleaner.Proofs.Regex.Instructions
import Gleaner.Proofs.Value.Narrowing
import Gleaner.Proofs.Engine.Attempts
import Gleaner.Proofs.Value.Elementwise
import Gleaner.Proofs.Evaluation.RawText
import Gleaner.Proofs.Rule.OddRuns
import Gleaner.Proofs.Evaluation.Elements
