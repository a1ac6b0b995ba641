import DepView.Artifact
import DepView.Batch
import DepView.Charset.Basic
import DepView.Charset.ChineseSheets
import DepView.Charset.Chinese
import DepView.Charset.CodePages
import DepView.Charset.Escape
import DepView.Charset.Fault
import DepView.Charset.Gb18030
import DepView.Charset.JapaneseSheets
import DepView.Charset.Japanese
import DepView.Charset.Kind
import DepView.Charset.Korean
import DepView.Charset.KsX1001
import DepView.Charset.Name
import DepView.Charset.Sheet
import DepView.Charset.Switching
import DepView.Charset.Units
import DepView.Charset.Utf7
import DepView.Command.Catalog
import DepView.Command.Form
import DepView.Command.Line
import DepView.Command.Order
import DepView.Command.Page
import DepView.Command.Usage
import DepView.Command.Values
import DepView.Console.Emoji
import DepView.Console.EmojiNames
import DepView.Console.Grid
import DepView.Console.Literal
import DepView.Console.Markup
import DepView.Console.Message
import DepView.Console.Style
import DepView.Console.Styled
import DepView.Console.Wrap
import DepView.Decimal.Binary
import DepView.Decimal.Fixed
import DepView.Decimal.Literal
import DepView.Decimal.Shortest
import DepView.Decimal.Typed
import DepView.Dependency.Analyzer
import DepView.Dependency.Cells
import DepView.Dependency.Conversion
import DepView.Dependency.Label
import DepView.Domain.Direction
import DepView.Domain.Joining
import DepView.Domain.Label
import DepView.Domain.Permitted
import DepView.Failure
import DepView.Graph.Basic
import DepView.Graph.History
import DepView.Graph.Parser
import DepView.Graph.Record
import DepView.Graph.Stats
import DepView.Json.Basic
import DepView.Json.Literal
import DepView.Json.Reader
import DepView.Json.Writer
import DepView.Layout.Basic
import DepView.Log
import DepView.Overlay.ContentType
import DepView.Overlay.Location
import DepView.Overlay.Panel
import DepView.Overlay.Response
import DepView.Overlay.Search
import DepView.Overlay.SharedView
import DepView.Overlay.View
import DepView.Page.Config
import DepView.Page.Template
import DepView.Proofs.CharacterClasses
import DepView.Proofs.DependencyDocument
import DepView.Proofs.DependencyGraph
import DepView.Proofs.DependencyLabels
import DepView.Proofs.GraphBuilding
import DepView.Proofs.LineEndings
import DepView.Proofs.OverlayEnds
import DepView.Proofs.OverlayInterleavings
import DepView.Proofs.OverlayLoads
import DepView.Proofs.OverlayMarks
import DepView.Proofs.OverlayTokens
import DepView.Proofs.PatternScan
import DepView.Proofs.QuotedRows
import DepView.Proofs.QuotedText
import DepView.Proofs.StatementRows
import DepView.Proofs.TreeGraphText
import DepView.Proofs.TreeVisits
import DepView.Server.Address
import DepView.Server.App
import DepView.Server.Documentation
import DepView.Server.Reply
import DepView.Server.Request
import DepView.Server.Route
import DepView.Server.Url
import DepView.Session
import DepView.Settings.Basic
import DepView.Settings.File
import DepView.Settings.Lenient
import DepView.Store.Basic
import DepView.Store.Path
import DepView.Table
import DepView.Task.Dump
import DepView.Task.Ending
import DepView.Task.Report
import DepView.Task.Run
import DepView.Task.Viewer
import DepView.Text.Base64
import DepView.Text.Basic
import DepView.Text.Blank
import DepView.Text.Composition
import DepView.Text.Digit
import DepView.Text.Escape
import DepView.Text.Lower
import DepView.Text.Names
import DepView.Text.Names.Words
import DepView.Text.Names.BasicPlane
import DepView.Text.Names.OtherPlanes
import DepView.Text.Percent
import DepView.Text.Printable
import DepView.Text.Punycode
import DepView.Text.Quoted
import DepView.Text.Ranges
import DepView.Text.Scan
import DepView.Text.Similarity
import DepView.Text.Surrogate
import DepView.Text.Utf8
import DepView.Text.Width
import DepView.Text.Word
import DepView.Tree.Basic
import DepView.Tree.Dot
import DepView.Tree.Expression
import DepView.Tree.Files
import DepView.Tree.Live
import DepView.Tree.Shape
import DepView.Tree.Sources
import DepView.Yaml.Content
import DepView.Yaml.Cursor
import DepView.Yaml.Date
import DepView.Yaml.Fault
import DepView.Yaml.Node
import DepView.Yaml.Number
import DepView.Yaml.Scalar
import DepView.Yaml.Tag
import DepView.Yaml.Token
import DepView.Yaml.Value
import DepView.Proofs.ActionSteps
import DepView.Proofs.TreeDumps
import DepView.Proofs.OverlayPanel
import DepView.Proofs.OverlayContent
import DepView.Proofs.RelabelledText
import DepView.Proofs.StoreWrites
import DepView.Proofs.JsonAscii
import DepView.Proofs.LabelledDocument
import DepView.Proofs.OutputPaths
import DepView.Proofs.SideFiles
import DepView.Proofs.ConversionEnds
import DepView.Proofs.ArtifactNames
import DepView.Proofs.ArtifactOverlay
import DepView.Proofs.PathWalks
import DepView.Proofs.ResolvedPlaces
import DepView.Proofs.SameTree
import DepView.Proofs.ConfinedGraphs
import DepView.Proofs.SiblingFiles
import DepView.Proofs.ConversionRuns
import DepView.Proofs.ConversionFrames
import DepView.Proofs.ConversionHistories
import DepView.Proofs.QuotedDocument
import DepView.Proofs.NeighbouringLabels
import DepView.Proofs.GraphHistories
import DepView.Proofs.StoreChanges
import DepView.Proofs.DumpNames
import DepView.Proofs.DumpedTrees
import DepView.Proofs.DumpBatches
import DepView.Proofs.WellFormedGraphs
import DepView.Proofs.GraphWalks
import DepView.Proofs.GraphProjection
import DepView.Proofs.GraphFigures
import DepView.Proofs.TreeFigures
import DepView.Proofs.LayoutElements
import DepView.Proofs.JsonGrammar
import DepView.Proofs.GuardedText
import DepView.Proofs.NumberText
import DepView.Proofs.LineKinds
import DepView.Proofs.EscapedText
import DepView.Proofs.WrittenJson
import DepView.Proofs.EmbeddedConfig
import DepView.Proofs.LinewiseRelabelling
import DepView.Proofs.SettledText
import DepView.Proofs.DialectChoice
import DepView.Proofs.CandidateLocations
import DepView.Proofs.ArtifactSearch
import DepView.Proofs.FittingSettings
import DepView.Proofs.SettingsLoading
import DepView.Proofs.CellIndices
import DepView.Proofs.DependencyStage
import DepView.Proofs.TreeListing
