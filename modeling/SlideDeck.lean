import SlideDeck.Archive.Bzip2
import SlideDeck.Archive.Bzip2.Scrambling
import SlideDeck.Archive.Decoding
import SlideDeck.Archive.Directory
import SlideDeck.Archive.Inflate
import SlideDeck.Archive.Method
import SlideDeck.Archive.PrefixCode
import SlideDeck.Archive.Span
import SlideDeck.Archive.Unzip
import SlideDeck.Archive.Zip
import SlideDeck.Archive.Zstandard
import SlideDeck.Archive.Zstandard.Backward
import SlideDeck.Archive.Zstandard.Literals
import SlideDeck.Archive.Zstandard.Sequences
import SlideDeck.Archive.Zstandard.StateCode
import SlideDeck.Ascending
import SlideDeck.Bytes.Checksum
import SlideDeck.Bytes.WideHash
import SlideDeck.Bytes.Word
import SlideDeck.Chart.Axis
import SlideDeck.Chart.Canvas
import SlideDeck.Chart.Drawing
import SlideDeck.Chart.Format
import SlideDeck.Chart.Line
import SlideDeck.Chart.Plot
import SlideDeck.CommandLine.Arguments
import SlideDeck.CommandLine.Paths
import SlideDeck.CommandLine.Run
import SlideDeck.Configuration
import SlideDeck.Error
import SlideDeck.File.Contents
import SlideDeck.File.Encoding
import SlideDeck.File.Error
import SlideDeck.File.Path
import SlideDeck.File.Tree
import SlideDeck.Json.Basic
import SlideDeck.Json.Lexeme
import SlideDeck.Json.Printer
import SlideDeck.Json.Reader
import SlideDeck.Main
import SlideDeck.Number.Binary64
import SlideDeck.Number.Decimal
import SlideDeck.Number.Positional
import SlideDeck.Number.Scalar
import SlideDeck.Number.Shortest
import SlideDeck.Package.Basic
import SlideDeck.Package.PartName
import SlideDeck.Package.Relationship
import SlideDeck.Picture.Basic
import SlideDeck.Picture.Format
import SlideDeck.Picture.Png
import SlideDeck.Picture.Raster
import SlideDeck.Picture.Raster.Bmp
import SlideDeck.Picture.Raster.Gif
import SlideDeck.Picture.Raster.Jpeg
import SlideDeck.Picture.Raster.Png
import SlideDeck.Picture.Vector
import SlideDeck.Presentation.Builtin
import SlideDeck.Presentation.Deck
import SlideDeck.Presentation.Entry
import SlideDeck.Presentation.Fault
import SlideDeck.Proofs.CommandLine.Written
import SlideDeck.Proofs.File.Publish
import SlideDeck.Proofs.File.Scratch
import SlideDeck.Proofs.Number.Digits
import SlideDeck.Proofs.Number.Vacancy
import SlideDeck.Proofs.Outcome
import SlideDeck.Proofs.Package.Carried
import SlideDeck.Proofs.Package.Naming
import SlideDeck.Proofs.Package.Parts
import SlideDeck.Proofs.Package.Relationship
import SlideDeck.Proofs.Package.Target
import SlideDeck.Proofs.Presentation.Addition
import SlideDeck.Proofs.Presentation.Builtin
import SlideDeck.Proofs.Presentation.Composed
import SlideDeck.Proofs.Presentation.ContentTypes
import SlideDeck.Proofs.Presentation.Finalize
import SlideDeck.Proofs.Presentation.Integrity
import SlideDeck.Proofs.Presentation.Listed
import SlideDeck.Proofs.Presentation.Made
import SlideDeck.Proofs.Presentation.MediaTypes
import SlideDeck.Proofs.Presentation.Numbering
import SlideDeck.Proofs.Presentation.Record
import SlideDeck.Proofs.Presentation.Round
import SlideDeck.Proofs.Presentation.Separate
import SlideDeck.Proofs.Presentation.SlideList
import SlideDeck.Proofs.Presentation.Template
import SlideDeck.Proofs.Render.Presented
import SlideDeck.Proofs.Render.Stages
import SlideDeck.Proofs.Render.Trace
import SlideDeck.Proofs.Slide.Sheet
import SlideDeck.Proofs.Slide.Shown
import SlideDeck.Proofs.Text.Search
import SlideDeck.Proofs.Text.Segments
import SlideDeck.Proofs.Xml.Plain
import SlideDeck.Proofs.Xml.Query
import SlideDeck.Proofs.Xml.Starts
import SlideDeck.Proofs.Xml.Tree
import SlideDeck.Render
import SlideDeck.Series.Basic
import SlideDeck.Series.File
import SlideDeck.Series.Token
import SlideDeck.Slide.Basic
import SlideDeck.Slide.Reader
import SlideDeck.Slide.Sheet
import SlideDeck.Text.Blank
import SlideDeck.Text.CodePage437
import SlideDeck.Text.DecimalDigit
import SlideDeck.Text.Find
import SlideDeck.Text.Lines
import SlideDeck.Text.Lossy
import SlideDeck.Text.Lowercase
import SlideDeck.Text.Quoted
import SlideDeck.Text.Ranges
import SlideDeck.Xml.Escape
import SlideDeck.Xml.Markup
import SlideDeck.Xml.Scan
import SlideDeck.Xml.Tag
import SlideDeck.Proofs.Presentation.Preserved
import SlideDeck.Proofs.Presentation.Reopened
import SlideDeck.Proofs.File.Reach
import SlideDeck.Proofs.File.Changes
import SlideDeck.Proofs.Render.Confined
import SlideDeck.Proofs.CommandLine.AllOrNothing
import SlideDeck.Proofs.Xml.Replacement
import SlideDeck.Proofs.Presentation.Entered
import SlideDeck.Proofs.Slide.Described
import SlideDeck.Proofs.Configuration
import SlideDeck.Proofs.Xml.Skeleton
import SlideDeck.Proofs.Slide.Drawn
import SlideDeck.Proofs.Slide.Faithful
import SlideDeck.Proofs.Render.Determined
import SlideDeck.Proofs.Render.Images
import SlideDeck.Proofs.CommandLine.Status
import SlideDeck.Proofs.Series.Tokens
import SlideDeck.Proofs.Series.DataLine
import SlideDeck.Proofs.Presentation.Apart
import SlideDeck.Proofs.Presentation.Stepwise
import SlideDeck.Proofs.Presentation.Complete
import SlideDeck.Proofs.Presentation.Masters
import SlideDeck.Proofs.Xml.Places
import SlideDeck.Proofs.Presentation.ChildOrder
import SlideDeck.Proofs.Text.Lowercase
import SlideDeck.Proofs.Xml.Insertion
import SlideDeck.Proofs.Xml.LegalText
import SlideDeck.Proofs.Number.Exact
import SlideDeck.Proofs.Chart.AxisRange
import SlideDeck.Proofs.Picture.Scaling
import SlideDeck.Proofs.Presentation.TypeEntries
import SlideDeck.Proofs.Presentation.TypesExtended
import SlideDeck.Proofs.File.Attempt
import SlideDeck.Proofs.Chart.Plot
import SlideDeck.Proofs.Slide.ListEntry
import SlideDeck.Proofs.Package.Search
import SlideDeck.Proofs.Number.Value
import SlideDeck.Proofs.Text.Items
import SlideDeck.Proofs.Xml.First
import SlideDeck.Proofs.Picture.VectorSize
