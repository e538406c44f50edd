import ContentTree.Cache.Contents
import ContentTree.Cache.Kinds
import ContentTree.Cache.Pair
import ContentTree.Calendar.DateTime
import ContentTree.Calendar.Iso
import ContentTree.CommandLine.Command
import ContentTree.CommandLine.Options
import ContentTree.CommandLine.Report
import ContentTree.CommandLine.Run
import ContentTree.Descriptor.Element
import ContentTree.Descriptor.Literal
import ContentTree.Descriptor.Tree
import ContentTree.Descriptor.Value
import ContentTree.Descriptor.View
import ContentTree.Filter.Basic
import ContentTree.Filter.Reader
import ContentTree.Json.Datum
import ContentTree.Json.Reader
import ContentTree.Json.Value
import ContentTree.Json.Writer
import ContentTree.Lookup.Basic
import ContentTree.Main
import ContentTree.Mapping.Backing
import ContentTree.Mapping.Basic
import ContentTree.Mapping.Details
import ContentTree.Mapping.Listing
import ContentTree.Mapping.Resource
import ContentTree.Name.Escaped
import ContentTree.Name.Platform
import ContentTree.Number.Binary64
import ContentTree.Number.Decimal
import ContentTree.Number.FloatText
import ContentTree.Number.Integer
import ContentTree.Number.Shortest
import ContentTree.Path.Logical
import ContentTree.Pattern.CharClass
import ContentTree.Pattern.Match
import ContentTree.Pattern.Reader
import ContentTree.Pattern.Syntax
import ContentTree.Proofs.Lookup
import ContentTree.Proofs.Name.Codec
import ContentTree.Proofs.Name.Platform
import ContentTree.Proofs.Path.Logical
import ContentTree.Proofs.Storage.Disk
import ContentTree.Proofs.Storage.FilePath
import ContentTree.Proofs.Text.Segments
import ContentTree.Provider.Basic
import ContentTree.Provider.Walk
import ContentTree.Session.Basic
import ContentTree.Settings.Basic
import ContentTree.Settings.File
import ContentTree.Storage.Change
import ContentTree.Storage.Disk
import ContentTree.Storage.Error
import ContentTree.Storage.FilePath
import ContentTree.Table
import ContentTree.Terminal.Cells
import ContentTree.Terminal.Emoji
import ContentTree.Terminal.EmojiTable
import ContentTree.Terminal.Grid
import ContentTree.Terminal.Lines
import ContentTree.Terminal.Markup
import ContentTree.Terminal.Outline
import ContentTree.Terminal.Style
import ContentTree.Text.Blank
import ContentTree.Text.CellWidth
import ContentTree.Text.CodeSet
import ContentTree.Text.DecimalDigit
import ContentTree.Text.LowerCase
import ContentTree.Text.Printable
import ContentTree.Text.Quoted
import ContentTree.Text.Segments
import ContentTree.Text.Utf8
import ContentTree.Text.WordChar
import ContentTree.Xml.AttributeText
import ContentTree.Xml.ByteEncoding
import ContentTree.Xml.Chars
import ContentTree.Xml.Doctype
import ContentTree.Xml.Document
import ContentTree.Xml.Dtd
import ContentTree.Xml.Encoding
import ContentTree.Xml.Reader
import ContentTree.Xml.Reading
import ContentTree.Xml.Uri
import ContentTree.Yaml.Page
import ContentTree.Yaml.Scalar
import ContentTree.Yaml.Untagged
import ContentTree.Yaml.Value
import ContentTree.Yaml.Writer
import ContentTree.Proofs.Mapping.Backing
import ContentTree.Proofs.Mapping.Listing
import ContentTree.Proofs.Mapping.Completeness
import ContentTree.Proofs.Mapping.Children
import ContentTree.Proofs.Mapping.Entries
import ContentTree.Proofs.Mapping.Depth
import ContentTree.Proofs.Provider.Walk
import ContentTree.Proofs.Storage.Linkless
import ContentTree.Proofs.Mapping.Descriptors
import ContentTree.Proofs.Mapping.Identity
import ContentTree.Proofs.Mapping.Ancestors
import ContentTree.Proofs.Mapping.Spelling
import ContentTree.Proofs.Mapping.Questions
import ContentTree.Proofs.Cache.Honesty
import ContentTree.Proofs.Session.Run
import ContentTree.Proofs.Session.Transparency
import ContentTree.Proofs.Mapping.Shadow
import ContentTree.Proofs.Cache.Present
import ContentTree.Proofs.Session.Refresh
import ContentTree.Proofs.Storage.Alike
import ContentTree.Proofs.Session.Isolation
import ContentTree.Proofs.Filter.Navigation
import ContentTree.Proofs.Path.Reduction
import ContentTree.Proofs.Filter.Acceptance
import ContentTree.Proofs.Result
import ContentTree.Proofs.Filter.Loading
import ContentTree.Proofs.Cache.Freshness
import ContentTree.Proofs.Cache.Replies
import ContentTree.Proofs.Terminal.Markup
import ContentTree.Proofs.CommandLine.Report
import ContentTree.Proofs.CommandLine.Run
import ContentTree.Proofs.Table
import ContentTree.Proofs.Descriptor.Tree
import ContentTree.Proofs.Descriptor.Value
import ContentTree.Proofs.Mapping.Order
import ContentTree.Proofs.Mapping.Nearest
import ContentTree.Proofs.Storage.Presence
import ContentTree.Proofs.Mapping.Metadata
import ContentTree.Proofs.Json.Reader
import ContentTree.Proofs.Settings.Sections
import ContentTree.Proofs.Settings.Load
import ContentTree.Proofs.Cache.Recency
import ContentTree.Proofs.Cache.Sweeping
import ContentTree.Proofs.Provider.Preorder
import ContentTree.Proofs.Terminal.Outline
import ContentTree.Proofs.CommandLine.Tree
import ContentTree.Proofs.Xml.Document
import ContentTree.Proofs.Descriptor.Mirror
import ContentTree.Proofs.Xml.Namespaces
import ContentTree.Proofs.Descriptor.Properties
import ContentTree.Proofs.Text.Utf8
import ContentTree.Proofs.Json.Text
import ContentTree.Proofs.Json.Numeral
import ContentTree.Proofs.Json.Writer
import ContentTree.Proofs.Storage.Change
import ContentTree.Proofs.Settings.Save
import ContentTree.Proofs.Descriptor.View
import ContentTree.Proofs.Mapping.Endings
