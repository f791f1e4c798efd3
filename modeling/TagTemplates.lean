import TagTemplates.Command.Arguments
import TagTemplates.Command.Help
import TagTemplates.Command.Invocation
import TagTemplates.Command.Listing
import TagTemplates.Command.Run
import TagTemplates.Command.Sources
import TagTemplates.Datum
import TagTemplates.Dump
import TagTemplates.Files.Tree
import TagTemplates.Html.Builder
import TagTemplates.Html.Names
import TagTemplates.Html.Token
import TagTemplates.Html.Tree
import TagTemplates.Json.Basic
import TagTemplates.Json.Reader
import TagTemplates.Json.Writer
import TagTemplates.Liquid.Element
import TagTemplates.Liquid.Expression
import TagTemplates.Liquid.Filter
import TagTemplates.Liquid.Library
import TagTemplates.Liquid.Render
import TagTemplates.Liquid.Template
import TagTemplates.Main
import TagTemplates.Node.Basic
import TagTemplates.Number.Binary64
import TagTemplates.Number.Shortest
import TagTemplates.Number.Word
import TagTemplates.Pattern.Basic
import TagTemplates.Pattern.CharSet
import TagTemplates.Pattern.Reader
import TagTemplates.Proofs.Attempts
import TagTemplates.Proofs.Dump.Record
import TagTemplates.Proofs.Dump.Walk
import TagTemplates.Proofs.Liquid.Calls
import TagTemplates.Proofs.Liquid.Elements
import TagTemplates.Proofs.Liquid.Reading
import TagTemplates.Proofs.Node.Finalization
import TagTemplates.Proofs.Registry.Completion
import TagTemplates.Proofs.Registry.Identifiers
import TagTemplates.Proofs.Registry.Known
import TagTemplates.Proofs.Registry.Walk
import TagTemplates.Proofs.Schema.Built
import TagTemplates.Proofs.Session.Context
import TagTemplates.Proofs.Session.Rendering
import TagTemplates.Proofs.Tag.Written
import TagTemplates.Proofs.Template.Chunks
import TagTemplates.Proofs.Template.Evaluation
import TagTemplates.Proofs.Template.Finalizing
import TagTemplates.Proofs.Text.Basic
import TagTemplates.Registry.Basic
import TagTemplates.Registry.Completion
import TagTemplates.Registry.Loading
import TagTemplates.Registry.Resolution
import TagTemplates.Schema.Basic
import TagTemplates.Schema.Definition
import TagTemplates.Schema.Draft
import TagTemplates.Schema.Error
import TagTemplates.Schema.Loading
import TagTemplates.Session
import TagTemplates.Settings.Basic
import TagTemplates.Settings.Variable
import TagTemplates.Table.Loop
import TagTemplates.Table.RowSpans
import TagTemplates.Tag.Fault
import TagTemplates.Tag.Path
import TagTemplates.Tag.Reader
import TagTemplates.Template.Error
import TagTemplates.Template.Expansion
import TagTemplates.Template.Fallback
import TagTemplates.Template.Output
import TagTemplates.Template.Rendering
import TagTemplates.Template.Segment
import TagTemplates.Template.SubTemplates
import TagTemplates.Text.Basic
import TagTemplates.Text.Case
import TagTemplates.Text.Grid
import TagTemplates.Text.Quoted
import TagTemplates.Text.Width
import TagTemplates.Text.Word
import TagTemplates.Toml.Document
import TagTemplates.Toml.Scalar
import TagTemplates.Toml.Table
import TagTemplates.Toml.Text
import TagTemplates.Value.Basic
import TagTemplates.Value.Compare
import TagTemplates.Value.Scalar
import TagTemplates.Yaml.Document
import TagTemplates.Yaml.Line
import TagTemplates.Yaml.Node
import TagTemplates.Yaml.ScalarText
import TagTemplates.Yaml.Token
import TagTemplates.Yaml.Writer
import TagTemplates.Proofs.Tag.Grammar
import TagTemplates.Proofs.Tag.Faults
import TagTemplates.Proofs.Template.Scanning
import TagTemplates.Proofs.Dump.Faithful
import TagTemplates.Proofs.Liquid.ReadBack
import TagTemplates.Proofs.Session.Tags
import TagTemplates.Proofs.Registry.Changes
import TagTemplates.Proofs.Session.Temporary
import TagTemplates.Proofs.Session.Growth
import TagTemplates.Proofs.Session.Validity
import TagTemplates.Proofs.Session.Undeclared
import TagTemplates.Proofs.Tag.RoundTrip
import TagTemplates.Proofs.Dump.Display
import TagTemplates.Proofs.Session.Order
import TagTemplates.Proofs.Session.LetterCase
import TagTemplates.Proofs.Tag.Prefixes
import TagTemplates.Proofs.Tag.Sources
import TagTemplates.Proofs.Registry.Canonical
import TagTemplates.Proofs.Registry.Options
import TagTemplates.Proofs.Session.Canonical
import TagTemplates.Proofs.Session.Suggestions
import TagTemplates.Proofs.Template.Finality
import TagTemplates.Proofs.Template.Markers
import TagTemplates.Proofs.Template.RawBlocks
import TagTemplates.Proofs.Template.Pieces
import TagTemplates.Proofs.Template.Locality
import TagTemplates.Proofs.Template.Expanded
import TagTemplates.Proofs.Session.Expansion
import TagTemplates.Proofs.Agreement
import TagTemplates.Proofs.Table.RowTags
import TagTemplates.Proofs.Table.RowForest
import TagTemplates.Proofs.Table.RowRuns
import TagTemplates.Proofs.Table.RowWrapping
import TagTemplates.Proofs.Schema.Calls
import TagTemplates.Proofs.Session.Addressable
import TagTemplates.Proofs.Liquid.Lookups
import TagTemplates.Proofs.Dump.Exchange
import TagTemplates.Proofs.Dump.Isolation
import TagTemplates.Proofs.Dump.FieldOrder
import TagTemplates.Proofs.Entries
import TagTemplates.Proofs.Template.Substitution
import TagTemplates.Proofs.Tag.FirstFaults
import TagTemplates.Proofs.Template.FirstFaults
import TagTemplates.Proofs.Tag.LastingFaults
import TagTemplates.Proofs.Tag.BracedFaults
import TagTemplates.Proofs.Files.Paths
import TagTemplates.Proofs.Files.Tree
import TagTemplates.Proofs.Files.Rearranged
import TagTemplates.Proofs.Schema.Loading
import TagTemplates.Proofs.Registry.Loading
import TagTemplates.Proofs.Registry.Composition
import TagTemplates.Proofs.Table.RowLayout
import TagTemplates.Proofs.Node.Lookups
import TagTemplates.Proofs.Registry.Listing
