import Landscape.Catalog.Basic
import Landscape.Catalog.Build
import Landscape.Catalog.Decode
import Landscape.Catalog.Encode
import Landscape.Catalog.Record
import Landscape.CommandLine.Arguments
import Landscape.CommandLine.Basic
import Landscape.CommandLine.Failure
import Landscape.CommandLine.FileTree
import Landscape.Decimal.Double
import Landscape.Decimal.Shortest
import Landscape.Graph.Basic
import Landscape.Graph.Project
import Landscape.History
import Landscape.Identity
import Landscape.Json.Decode
import Landscape.Json.Failure
import Landscape.Json.Lexeme
import Landscape.Json.Node
import Landscape.Json.Number
import Landscape.Json.Reader
import Landscape.Json.Value
import Landscape.Listing
import Landscape.Main
import Landscape.Ordered.Key
import Landscape.Ordered.Map
import Landscape.Ordered.Set
import Landscape.PathGlob.Basic
import Landscape.PathGlob.Reader
import Landscape.Pattern.Basic
import Landscape.Pattern.Capture
import Landscape.Pattern.Break.Basic
import Landscape.Pattern.Break.Grapheme
import Landscape.Pattern.Break.Sentence
import Landscape.Pattern.Break.Word
import Landscape.Pattern.CharSet
import Landscape.Pattern.Expr.Basic
import Landscape.Pattern.Expr.Class
import Landscape.Pattern.Expr.Escape
import Landscape.Pattern.Expr.Reader
import Landscape.Pattern.Extent
import Landscape.Pattern.Footprint
import Landscape.Pattern.OfExpr
import Landscape.Pattern.Search
import Landscape.Query.Basic
import Landscape.Query.Params
import Landscape.Query.Participation
import Landscape.Route.Basic
import Landscape.Route.Network
import Landscape.Route.Search
import Landscape.Rule.Clauses
import Landscape.Rule.CommitRule
import Landscape.Rule.Error
import Landscape.Rule.FileRule
import Landscape.Rule.Formula
import Landscape.Rule.Matcher
import Landscape.Rule.ProjectRule
import Landscape.Rule.ProjectTest
import Landscape.Rule.Term
import Landscape.Rule.Verdict
import Landscape.Settings.Basic
import Landscape.Settings.FilePath
import Landscape.Slice
import Landscape.Text.Blank
import Landscape.Text.CaseMap
import Landscape.Text.Category
import Landscape.Text.Edition
import Landscape.Text.Fold
import Landscape.Text.Lower
import Landscape.Text.Named
import Landscape.Text.Numeral
import Landscape.Text.Property
import Landscape.Text.Quoted
import Landscape.Text.Ranges
import Landscape.Text.Script
import Landscape.Proofs.Rule.Clauses
import Landscape.Proofs.Slice
import Landscape.Proofs.Graph
import Landscape.Proofs.Route.Path
import Landscape.Proofs.Route.Table
import Landscape.Proofs.Route.Found
import Landscape.Proofs.Route.Selection
import Landscape.Proofs.Route.Simple
import Landscape.Proofs.Route.Lost
import Landscape.Proofs.Rule.Polarity
import Landscape.Proofs.Graph.Consistent
import Landscape.Proofs.Selection
import Landscape.Proofs.Route.Listed
import Landscape.Proofs.Route.Written
import Landscape.Proofs.Route.Mark
import Landscape.Proofs.Rule.Subgraph
import Landscape.Proofs.Route.Reach
import Landscape.Proofs.Slice.Admitted
import Landscape.Proofs.Route.Bound
import Landscape.Proofs.Catalog
import Landscape.Proofs.Query.Participation
import Landscape.Proofs.Query.Compiled
import Landscape.Proofs.Query.Join
import Landscape.Proofs.Query.Narrowing
import Landscape.Proofs.Query.Holders
import Landscape.Proofs.Query.Contribution
import Landscape.Proofs.Graph.Change
import Landscape.Proofs.Graph.Roster
import Landscape.Proofs.Graph.Holds
import Landscape.Proofs.Graph.Loading
import Landscape.Proofs.Route.Renaming
import Landscape.Proofs.Rule.Unsearched
import Landscape.Proofs.Rule.Outline
import Landscape.Proofs.Graph.Renumbering
import Landscape.Proofs.Graph.Permutation
import Landscape.Proofs.Json.Lexeme
import Landscape.Proofs.Json.Reader
import Landscape.Proofs.Json.Decode
import Landscape.Proofs.Catalog.Records
import Landscape.Proofs.Catalog.Integrity
import Landscape.Proofs.Query.Storage
import Landscape.Proofs.Rule.Grammar
import Landscape.Proofs.Graph.Failure
import Landscape.Proofs.Route.Descent
import Landscape.Proofs.Selection.Mode
import Landscape.Proofs.Rule.Blame
import Landscape.Proofs.Route.Grammar
import Landscape.Proofs.Rule.Parted
import Landscape.Proofs.Rule.Fragment
import Landscape.Proofs.Rule.Reshape
import Landscape.Proofs.Rule.Glob
import Landscape.Proofs.Pattern.Search
import Landscape.Proofs.Pattern.Capture
import Landscape.Proofs.Pattern.CharSet
import Landscape.Proofs.Pattern.Footprint
import Landscape.Proofs.Route.Form
import Landscape.Proofs.Rule.Star
import Landscape.Proofs.Text.Fold
import Landscape.Proofs.Selection.Order
import Landscape.Proofs.Settings
import Landscape.Proofs.Graph.Filing
import Landscape.Proofs.Text.Lower
import Landscape.Proofs.Rule.Exact
import Landscape.Proofs.Route.Turns
