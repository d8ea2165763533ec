import LivePages.Decimal.Layout
import LivePages.Text.Blank
import LivePages.Text.Escape
import LivePages.Text.Percent
import LivePages.Text.Truncate
import LivePages.Json.Parser
import LivePages.Json.Printer
import LivePages.Markup.Attributes
import LivePages.Markup.Token
import LivePages.Markup.Sink
import LivePages.Markdown.Node
import LivePages.Markdown.Walk
import LivePages.Markdown.Html
import LivePages.Markdown.Tree
import LivePages.Text.Punctuation
import LivePages.Text.CaseMap
import LivePages.Markdown.CharacterReference.Table
import LivePages.Markdown.Lexical
import LivePages.Markdown.CharacterReference
import LivePages.Markdown.Reference
import LivePages.Markdown.Line
import LivePages.Markdown.Block
import LivePages.Markdown.Emphasis
import LivePages.Markdown.Autolink
import LivePages.Markdown.Inline
import LivePages.Markdown.Render
import LivePages.Text.Grapheme
import LivePages.Text.Case
import LivePages.Text.Quoted
import LivePages.Text.Word
import LivePages.Template.Expr
import LivePages.Template.Expr.Outline
import LivePages.Template.Node
import LivePages.Template.Lexical
import LivePages.Template.Expr.Reader
import LivePages.Template.Node.Reader
import LivePages.Template.Margin
import LivePages.Template.Fault
import LivePages.Template.Source
import LivePages.Decimal.Remainder
import LivePages.Template.Value
import LivePages.Template.Arithmetic
import LivePages.Text.Search
import LivePages.Decimal.Reader
import LivePages.Decimal.Fixed
import LivePages.Template.Library
import LivePages.Template.Builtin.Argument
import LivePages.Text.Romanised
import LivePages.Template.Builtin.Texts
import LivePages.Template.Builtin.Lists
import LivePages.Template.Builtin.Numbers
import LivePages.Text.Pattern
import LivePages.Text.Pattern.Reader
import LivePages.Template.Builtin.Tests
import LivePages.Template.Builtin.Functions
import LivePages.Template.Builtin
import LivePages.Template.Engine
import LivePages.Template.Scope
import LivePages.Template.Run
import LivePages.Template.Eval
import LivePages.Template.Render
import LivePages.Json.Record
import LivePages.Package.Basic
import LivePages.Package.Repository
import LivePages.Package.Version
import LivePages.Config.Mirrors
import LivePages.Package.Lookup
import LivePages.Package.Helpers
import LivePages.Toml.Value
import LivePages.Toml.Lexical
import LivePages.Toml.Number
import LivePages.Toml.Moment
import LivePages.Toml.Table
import LivePages.Toml.Document
import LivePages.FileTree.Path
import LivePages.FileTree.Basic
import LivePages.FileTree.Ask
import LivePages.FileTree.World
import LivePages.Config.Sources
import LivePages.Config.Fault
import LivePages.Config.Settings
import LivePages.Config.Reader
import LivePages.Edition.Fault
import LivePages.Edition.Basic
import LivePages.Edition.Build
import LivePages.Publisher
import LivePages.Notice
import LivePages.Reload.Event
import LivePages.Reload.Registration
import LivePages.Reload.Handling
import LivePages.Command.Arguments
import LivePages.Command.Plan
import LivePages.Command.Outcome
import LivePages.Reload.Edit
import LivePages.Reload.Survey
import LivePages.Main
import LivePages.Proofs.Markup.Reading
import LivePages.Proofs.Markup.SafeLanguage
import LivePages.Proofs.Markdown.Decoration
import LivePages.Proofs.Text.Utf8
import LivePages.Proofs.Markdown.Writing
import LivePages.Proofs.Markdown.Inlines
import LivePages.Proofs.Markdown.Stack
import LivePages.Proofs.Markdown.Blocks
import LivePages.Proofs.Markdown.Constructs
import LivePages.Proofs.Markdown.Refusals
import LivePages.Proofs.Markdown.SafeMarkup
import LivePages.Proofs.Markdown.Address
import LivePages.Proofs.Result
import LivePages.Proofs.FileTree.Course
import LivePages.Proofs.Edition.Number
import LivePages.Proofs.Edition.Ordered
import LivePages.Proofs.Edition.Building
import LivePages.Proofs.Edition.Contents
import LivePages.Proofs.Publisher.Interleaving
import LivePages.Proofs.Publisher.Overlap
import LivePages.Proofs.Publisher.History
import LivePages.Proofs.Reload.Watching
import LivePages.Proofs.Reload.Freshness
import LivePages.Proofs.Edition.Listing
import LivePages.Proofs.Reload.Counting
import LivePages.Proofs.Reload.Startup
import LivePages.Proofs.Template.Following
import LivePages.Proofs.Template.Alike
import LivePages.Proofs.Template.Depth
import LivePages.Proofs.Template.Reach
import LivePages.Proofs.Template.Standing
import LivePages.Proofs.Template.Inclusion
import LivePages.Proofs.Template.Embedding
import LivePages.Proofs.Edition.Embedded
import LivePages.Proofs.Template.Single
import LivePages.Proofs.Edition.Base
import LivePages.Proofs.FileTree.Path
import LivePages.Proofs.Config.Checks
import LivePages.Proofs.Edition.Confinement
import LivePages.Proofs.Text.Percent
import LivePages.Proofs.Package.Manifest
import LivePages.Proofs.Template.Reading
import LivePages.Proofs.Template.Handing
import LivePages.Proofs.Package.Helping
import LivePages.Proofs.Json.Record
import LivePages.Proofs.Package.Views
import LivePages.Proofs.Markdown.Tour
import LivePages.Proofs.Markup.Setting
import LivePages.Proofs.Markdown.PageAttributes
import LivePages.Proofs.FileTree.Writing
import LivePages.Proofs.FileTree.OneFile
import LivePages.Proofs.Edition.Influence
import LivePages.Proofs.Command.Settling
import LivePages.Proofs.Command.AllOrNothing
import LivePages.Proofs.Markdown.Conversion
import LivePages.Proofs.Markdown.Tightness
import LivePages.Proofs.Edition.Faults
import LivePages.Proofs.Markdown.Anchors
import LivePages.Proofs.Text.Trim
import LivePages.Proofs.Text.Split
import LivePages.Proofs.Package.VersionForm
import LivePages.Proofs.Package.VersionOrder
import LivePages.Proofs.Package.ManifestParts
import LivePages.Proofs.Config.Violations
import LivePages.Proofs.Edition.Entries
import LivePages.Proofs.Publisher.Checked
import LivePages.Proofs.Text.DotSegments
import LivePages.Proofs.Package.ManifestRequest
import LivePages.Proofs.Package.Readiness
import LivePages.Proofs.Text.Query
import LivePages.Proofs.Package.Escaping
import LivePages.Proofs.Markdown.NodeAttributes
import LivePages.Proofs.Text.Truncate
import LivePages.Proofs.Notice.Line
