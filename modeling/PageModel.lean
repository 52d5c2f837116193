import PageModel.Address
import PageModel.Address.Domain
import PageModel.Address.DomainTable
import PageModel.Address.Number
import PageModel.Address.Punycode
import PageModel.Command.Arguments
import PageModel.Command.Run
import PageModel.Command.Variables
import PageModel.Css.Component
import PageModel.Css.Match
import PageModel.Css.Parse
import PageModel.Css.Selector
import PageModel.Css.Token
import PageModel.Error
import PageModel.Extractor
import PageModel.Extractor.Description
import PageModel.Files.Fault
import PageModel.Files.Path
import PageModel.Files.Tree
import PageModel.Html.Construction.Adoption
import PageModel.Html.Construction.Arena
import PageModel.Html.Construction.Builder
import PageModel.Html.Construction.Cells
import PageModel.Html.Construction.DocumentType
import PageModel.Html.Construction.Foreign
import PageModel.Html.Construction.Names
import PageModel.Html.Document
import PageModel.Html.Markup
import PageModel.Html.NamedReference
import PageModel.Html.Node
import PageModel.Html.Reference
import PageModel.Html.Rules.After
import PageModel.Html.Rules.Body
import PageModel.Html.Rules.Foreign
import PageModel.Html.Rules.Head
import PageModel.Html.Rules.Table
import PageModel.Html.Scan
import PageModel.Html.Scan.Comment
import PageModel.Html.Scan.Tag
import PageModel.Html.Scan.Text
import PageModel.Html.Token
import PageModel.Json.Fault
import PageModel.Json.Number
import PageModel.Json.Print
import PageModel.Json.Read
import PageModel.Json.Scan
import PageModel.Json.Value
import PageModel.Main
import PageModel.Model.Spec
import PageModel.Model.Text
import PageModel.Number.Binary64
import PageModel.Number.Shortest
import PageModel.Page
import PageModel.Pipeline.Run
import PageModel.Pipeline.Task
import PageModel.Proofs.Html.Numbers
import PageModel.Proofs.Html.Root
import PageModel.Proofs.Html.Tree
import PageModel.Proofs.Pipeline.Accounting
import PageModel.Proofs.Pipeline.Reached
import PageModel.Proofs.Pipeline.Scheduling
import PageModel.Proofs.Unicode.Blank
import PageModel.Proofs.XPath.Chain
import PageModel.Proofs.XPath.Grammar
import PageModel.Proofs.XPath.Meaning
import PageModel.Proofs.XPath.Reading.Path
import PageModel.Proofs.XPath.Reading.Predicate
import PageModel.Proofs.XPath.Reading.Word
import PageModel.Record
import PageModel.Regex.CharSet
import PageModel.Regex.Expr
import PageModel.Regex.Parse
import PageModel.Regex.Pattern
import PageModel.Regex.Property
import PageModel.Regex.Search
import PageModel.Resolver
import PageModel.Schema
import PageModel.Selector
import PageModel.Selector.Fault
import PageModel.Selector.Kind
import PageModel.Settings
import PageModel.Text.Quoted
import PageModel.Unicode.Binary
import PageModel.Unicode.Blank
import PageModel.Unicode.Category
import PageModel.Unicode.CharClass
import PageModel.Unicode.Direction
import PageModel.Unicode.Folding
import PageModel.Unicode.Lowercase
import PageModel.Unicode.RangeTable
import PageModel.Unicode.Script
import PageModel.Unicode.Shift
import PageModel.UrlRule
import PageModel.XPath.Evaluate
import PageModel.XPath.Parse
import PageModel.XPath.Path
import PageModel.Proofs.Extractor.Compiling
import PageModel.Proofs.Extractor.Effects
import PageModel.Proofs.Model.Extraction
import PageModel.Proofs.XPath.Writing
import PageModel.Proofs.XPath.DocumentOrder
import PageModel.Proofs.Extractor.Mark
import PageModel.Proofs.Model.Errors
import PageModel.Proofs.Pipeline.Steps
import PageModel.Proofs.Pipeline.Fetching
import PageModel.Proofs.Regex.Matches
import PageModel.Proofs.Regex.Stack
import PageModel.Proofs.Regex.Search
import PageModel.Proofs.Regex.Reading
import PageModel.Proofs.UrlRule.Glob
import PageModel.Proofs.Json.Reading
import PageModel.Proofs.Json.Records
import PageModel.Proofs.Model.RoundTrip
import PageModel.Proofs.XPath.Predicates
import PageModel.Proofs.Model.Building
import PageModel.Proofs.Regex.Capture
import PageModel.Proofs.Selector.Pattern
import PageModel.Proofs.Selector.Path
import PageModel.Proofs.Regex.Extending.Escape
import PageModel.Proofs.Regex.Extending.Class
import PageModel.Proofs.Regex.Extending.Items
import PageModel.Proofs.UrlRule.Anchoring
import PageModel.Proofs.XPath.Attributes
import PageModel.Proofs.XPath.AttrTest
import PageModel.Proofs.Unicode.Lowercase
import PageModel.Proofs.Unicode.Tidy
import PageModel.Proofs.XPath.TagName
import PageModel.Proofs.XPath.Location
import PageModel.Proofs.Selector.Text
import PageModel.Proofs.UrlRule.Undeclared
import PageModel.Proofs.UrlRule.Union
import PageModel.Proofs.UrlRule.Dots
import PageModel.Proofs.Extractor.Declared
import PageModel.Proofs.Command.File
import PageModel.Proofs.Extractor.WholeUrl
import PageModel.Proofs.Resolver.Latest
import PageModel.Proofs.Settings.Reading
import PageModel.Proofs.XPath.Safety
