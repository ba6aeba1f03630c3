import GlyphMosaic.Color
import GlyphMosaic.CommandLine.Options
import GlyphMosaic.CommandLine.Reader
import GlyphMosaic.CommandLine.Size
import GlyphMosaic.Converter
import GlyphMosaic.Converter.Call
import GlyphMosaic.Converter.Journal
import GlyphMosaic.Export.Ansi
import GlyphMosaic.Export.Ansi.Terminal
import GlyphMosaic.Export.Format
import GlyphMosaic.Export.Html
import GlyphMosaic.Export.Html.Reader
import GlyphMosaic.Export.Level
import GlyphMosaic.Failure
import GlyphMosaic.Fault
import GlyphMosaic.Files.FileTree
import GlyphMosaic.Files.Path
import GlyphMosaic.Frame
import GlyphMosaic.Grid
import GlyphMosaic.Host
import GlyphMosaic.Image.Bmp
import GlyphMosaic.Image.Bytes
import GlyphMosaic.Image.Crc32
import GlyphMosaic.Image.Deflate
import GlyphMosaic.Image.Format
import GlyphMosaic.Image.Png
import GlyphMosaic.Image.Png.Chunk
import GlyphMosaic.Image.Png.Contents
import GlyphMosaic.Image.Png.Row
import GlyphMosaic.Main
import GlyphMosaic.Number.Binary
import GlyphMosaic.Number.Decimal
import GlyphMosaic.Number.Integer
import GlyphMosaic.Number.Power
import GlyphMosaic.Number.Shortest
import GlyphMosaic.Palette
import GlyphMosaic.Program
import GlyphMosaic.Proofs.CommandLine.Sizes
import GlyphMosaic.Proofs.Converter.Accounts
import GlyphMosaic.Proofs.Converter.Brightening
import GlyphMosaic.Proofs.Converter.Coherence
import GlyphMosaic.Proofs.Converter.Conversions
import GlyphMosaic.Proofs.Converter.Enlarging
import GlyphMosaic.Proofs.Converter.FrameRuns
import GlyphMosaic.Proofs.Converter.Histories
import GlyphMosaic.Proofs.Converter.OwnGrid
import GlyphMosaic.Proofs.Converter.Palettes
import GlyphMosaic.Proofs.Converter.Usable
import GlyphMosaic.Proofs.Converter.WhiteFrames
import GlyphMosaic.Proofs.Export.Appending
import GlyphMosaic.Proofs.Export.Capacity
import GlyphMosaic.Proofs.Export.Display
import GlyphMosaic.Proofs.Export.ReadBack
import GlyphMosaic.Proofs.Export.Truncation
import GlyphMosaic.Proofs.Grid.Edits
import GlyphMosaic.Proofs.Image.Rgba
import GlyphMosaic.Proofs.Number.Order
import GlyphMosaic.Proofs.Reduction.Brightness
import GlyphMosaic.Proofs.Reduction.Reference
import GlyphMosaic.Proofs.Reduction.SecondPass
import GlyphMosaic.Proofs.Reduction.Uniform
import GlyphMosaic.Proofs.RowMajor
import GlyphMosaic.Proofs.Runs
import GlyphMosaic.Proofs.Session.Accepting
import GlyphMosaic.Proofs.Session.Answers
import GlyphMosaic.Proofs.Session.Benchmark
import GlyphMosaic.Proofs.Session.Output
import GlyphMosaic.Proofs.Settings.Layers
import GlyphMosaic.Proofs.Settings.Ranges
import GlyphMosaic.Proofs.Source.Lending
import GlyphMosaic.Proofs.Source.Painting
import GlyphMosaic.Proofs.Source.Pulling
import GlyphMosaic.Proofs.Source.Ramps
import GlyphMosaic.Proofs.SummedArea.Entries
import GlyphMosaic.Proofs.SummedArea.Rectangles
import GlyphMosaic.Proofs.Tiling.Covering
import GlyphMosaic.Proofs.Tiling.Maps
import GlyphMosaic.Proofs.Tiling.Means
import GlyphMosaic.Proofs.Tiling.Partition
import GlyphMosaic.Proofs.Tiling.Rebuilding
import GlyphMosaic.Proofs.Tiling.Regions
import GlyphMosaic.Proofs.Timing.Aggregates
import GlyphMosaic.Proofs.Timing.Counts
import GlyphMosaic.Proofs.Tone.Glyphs
import GlyphMosaic.Reduction.Lanes
import GlyphMosaic.Reduction.Planes
import GlyphMosaic.Reduction.Reducer
import GlyphMosaic.Reduction.Region
import GlyphMosaic.Report
import GlyphMosaic.Report.Pretty
import GlyphMosaic.Session
import GlyphMosaic.Settings
import GlyphMosaic.Settings.File
import GlyphMosaic.Source.FramePool
import GlyphMosaic.Source.FrameSource
import GlyphMosaic.Source.Lending
import GlyphMosaic.Source.Pattern
import GlyphMosaic.SummedArea
import GlyphMosaic.Text.Blank
import GlyphMosaic.Tiling.Axis
import GlyphMosaic.Tiling.RegionMap
import GlyphMosaic.Timing.Meter
import GlyphMosaic.Timing.Stats
import GlyphMosaic.Toml.Document
import GlyphMosaic.Toml.Item
import GlyphMosaic.Toml.Literal
import GlyphMosaic.Toml.Scan
import GlyphMosaic.Tone
