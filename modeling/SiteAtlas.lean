import SiteAtlas.Command.Basic
import SiteAtlas.Command.Options
import SiteAtlas.Command.Report
import SiteAtlas.Command.Run
import SiteAtlas.Command.Snapshot
import SiteAtlas.Console.Markup
import SiteAtlas.Console.Outline
import SiteAtlas.Console.Panel
import SiteAtlas.Console.Table
import SiteAtlas.Console.Wrap
import SiteAtlas.Decimal.Binary64
import SiteAtlas.Decimal.Fixed
import SiteAtlas.Decimal.Shortest
import SiteAtlas.Digest.Md5
import SiteAtlas.Files.FileSystem
import SiteAtlas.Files.Path
import SiteAtlas.Files.Preview
import SiteAtlas.Graph.Basic
import SiteAtlas.Graph.Dot
import SiteAtlas.Graph.Focus
import SiteAtlas.Graph.Html
import SiteAtlas.Ignore.Pattern
import SiteAtlas.Ignore.Rules
import SiteAtlas.Imports.Analysis
import SiteAtlas.Imports.Basic
import SiteAtlas.Imports.Map
import SiteAtlas.Imports.Resolver
import SiteAtlas.Json.Printer
import SiteAtlas.Json.Reader
import SiteAtlas.Layout.Box
import SiteAtlas.Layout.Dependencies
import SiteAtlas.Layout.Force.Basic
import SiteAtlas.Layout.Force.Forces
import SiteAtlas.Layout.Force.Run
import SiteAtlas.Layout.NodeId
import SiteAtlas.Layout.Overlap
import SiteAtlas.Layout.Pairs
import SiteAtlas.Layout.Placement
import SiteAtlas.Layout.Spacing
import SiteAtlas.Layout.Tree
import SiteAtlas.Main
import SiteAtlas.Natural
import SiteAtlas.Number
import SiteAtlas.Project.Analysis
import SiteAtlas.Project.Insights
import SiteAtlas.Project.Layout
import SiteAtlas.Project.Manifest
import SiteAtlas.Project.SchemaFiles
import SiteAtlas.Project.Structure
import SiteAtlas.Project.Walk
import SiteAtlas.Random.Twister
import SiteAtlas.Routing.FileRole
import SiteAtlas.Routing.Payload
import SiteAtlas.Routing.RoutePath
import SiteAtlas.Routing.Segment
import SiteAtlas.Scalar
import SiteAtlas.Schema.Attribute
import SiteAtlas.Schema.Basic
import SiteAtlas.Schema.Graph
import SiteAtlas.Schema.GraphStatistics
import SiteAtlas.Schema.Payload
import SiteAtlas.Schema.Reader
import SiteAtlas.Schema.Tally
import SiteAtlas.Script.Dialect
import SiteAtlas.Script.Elements
import SiteAtlas.Script.Expressions
import SiteAtlas.Script.Grammar
import SiteAtlas.Script.Imports
import SiteAtlas.Script.Reading
import SiteAtlas.Script.Source
import SiteAtlas.Script.Statements
import SiteAtlas.Script.Tree
import SiteAtlas.Script.Types
import SiteAtlas.Service.Api
import SiteAtlas.Settings.Convert
import SiteAtlas.Settings.Sections
import SiteAtlas.Settings.Store
import SiteAtlas.Settings.Toml.Printer
import SiteAtlas.Settings.Toml.Reader
import SiteAtlas.Settings.Toml.Scalar
import SiteAtlas.Text.Basic
import SiteAtlas.Text.Case
import SiteAtlas.Text.CaseTable
import SiteAtlas.Text.Class
import SiteAtlas.Text.PrintableTable
import SiteAtlas.Text.Utf8
import SiteAtlas.Text.Width
import SiteAtlas.Text.WidthTable
import SiteAtlas.Text.WordTable
import SiteAtlas.Value.Basic
import SiteAtlas.Value.Literal
import SiteAtlas.Workspace
import SiteAtlas.Proofs.Imports.Agreement
import SiteAtlas.Proofs.Imports.StableIds
import SiteAtlas.Proofs.Layout.Placement
import SiteAtlas.Proofs.Layout.Separation
import SiteAtlas.Proofs.Layout.NodeIds
import SiteAtlas.Proofs.Layout.Visible
import SiteAtlas.Proofs.Layout.Slots
import SiteAtlas.Proofs.Layout.NestedSlots
import SiteAtlas.Proofs.Project.ImporterSearch
import SiteAtlas.Proofs.Project.Nodes
import SiteAtlas.Proofs.Project.LayoutChains
import SiteAtlas.Proofs.Project.KeptEntries
import SiteAtlas.Proofs.Project.WalkedTree
import SiteAtlas.Proofs.Project.WalkRun
import SiteAtlas.Proofs.Routing.RoutePath
import SiteAtlas.Proofs.Schema.Relations
import SiteAtlas.Proofs.Files.Path
import SiteAtlas.Proofs.Imports.ScanOrder
import SiteAtlas.Proofs.Layout.Listing
import SiteAtlas.Proofs.Layout.Shown
import SiteAtlas.Proofs.Layout.Overlap
import SiteAtlas.Proofs.Layout.Force
import SiteAtlas.Proofs.Files.Links
import SiteAtlas.Proofs.Files.Loops
import SiteAtlas.Proofs.Files.ListingOrder
import SiteAtlas.Proofs.Files.Preview
import SiteAtlas.Proofs.Routing.RouteGrowth
import SiteAtlas.Proofs.Project.ScopeSubtree
import SiteAtlas.Proofs.Project.Counts
import SiteAtlas.Proofs.Schema.Composition
import SiteAtlas.Proofs.Schema.RelationCounts
import SiteAtlas.Proofs.Schema.RoundTrip
import SiteAtlas.Proofs.Script.Comments
import SiteAtlas.Proofs.Schema.Labels
import SiteAtlas.Proofs.Schema.Reordering
import SiteAtlas.Proofs.Settings.Conversion
import SiteAtlas.Proofs.Settings.Loading
import SiteAtlas.Proofs.Project.PrivateFolders
import SiteAtlas.Proofs.Project.ScopeByPath
import SiteAtlas.Proofs.Project.RoutedNodes
import SiteAtlas.Proofs.Project.ListedSchemas
import SiteAtlas.Proofs.Graph.DotTokens
import SiteAtlas.Proofs.Graph.Markup
import SiteAtlas.Proofs.Graph.EmbeddedData
import SiteAtlas.Proofs.Imports.Spellings
import SiteAtlas.Proofs.Imports.LongSources
import SiteAtlas.Proofs.Imports.Isolation
import SiteAtlas.Proofs.Imports.Results
import SiteAtlas.Proofs.Imports.BareSources
import SiteAtlas.Proofs.Settings.Saving
import SiteAtlas.Proofs.Imports.ResolvedPaths
import SiteAtlas.Proofs.Schema.Quotations
import SiteAtlas.Proofs.Schema.TrailingComments
import SiteAtlas.Proofs.Schema.QuotedContents
import SiteAtlas.Proofs.Graph.Focus
import SiteAtlas.Proofs.Schema.Statistics
import SiteAtlas.Proofs.Schema.IndexedFields
import SiteAtlas.Proofs.Schema.CountedComments
import SiteAtlas.Proofs.Layout.DependencyBoxes
import SiteAtlas.Proofs.Layout.DependencyColumns
import SiteAtlas.Proofs.Layout.TriedPlaces
import SiteAtlas.Proofs.Layout.PushedBoxes
import SiteAtlas.Proofs.Settings.ByKey
import SiteAtlas.Proofs.Layout.Momentum
import SiteAtlas.Proofs.Layout.Springs
import SiteAtlas.Proofs.Project.InterceptLinks
import SiteAtlas.Proofs.Layout.IdParts
import SiteAtlas.Proofs.Schema.BalancedArguments
