import GlyphMosaic.Tone

/-!
# Settings

The settings of a conversion come in layers: the defaults, a file, and the options of a call.  A
`Layer` gives some of the fields; applying it replaces these.  `Settings.clamp` moves every field
into its range, and a charset that is no palette becomes the compact one.
-/

namespace GlyphMosaic

/-- How a source is converted. -/
structure Settings where
  /-- The glyphs from the sparsest to the densest. -/
  charset : String
  /-- The exponent of the tone curve. -/
  gamma : Binary32
  /-- Cells per row. -/
  outputWidth : UInt16
  /-- Rows of cells. -/
  outputHeight : UInt16
  /-- Use the lanes. -/
  vectorized : Bool
  /-- Measure from the start. -/
  benchmark : Bool
  /-- Frames that are counted but not measured. -/
  warmupFrames : UInt32

/-- Some of the settings. -/
structure Settings.Layer where
  /-- Replaces the charset. -/
  charset : Option String := none
  /-- Replaces the exponent. -/
  gamma : Option Binary32 := none
  /-- Replaces the width. -/
  outputWidth : Option UInt16 := none
  /-- Replaces the height. -/
  outputHeight : Option UInt16 := none
  /-- Replaces the use of the lanes. -/
  vectorized : Option Bool := none
  /-- Replaces the measuring. -/
  benchmark : Option Bool := none
  /-- Replaces the warm-up. -/
  warmupFrames : Option UInt32 := none

/-- One layer on top of another: a field of the upper one hides that of the lower one. -/
def Settings.Layer.over (upper lower : Settings.Layer) : Settings.Layer :=
  { charset := upper.charset.or lower.charset
    gamma := upper.gamma.or lower.gamma
    outputWidth := upper.outputWidth.or lower.outputWidth
    outputHeight := upper.outputHeight.or lower.outputHeight
    vectorized := upper.vectorized.or lower.vectorized
    benchmark := upper.benchmark.or lower.benchmark
    warmupFrames := upper.warmupFrames.or lower.warmupFrames }

namespace Settings

/-- The settings without any layer. -/
def default : Settings :=
  { charset := Palette.compact
    gamma := Tables.defaultGamma
    outputWidth := 240
    outputHeight := 80
    vectorized := true
    benchmark := false
    warmupFrames := 3 }

/-- The least exponent, 0.05. -/
def leastGamma : Binary32 := ⟨0x3d4ccccd⟩

/-- The greatest exponent, 4. -/
def greatestGamma : Binary32 := ⟨0x40800000⟩

/-- The exponent moved into its range; one that is not finite becomes the default. -/
def clampGamma (gamma : Binary32) : Binary32 :=
  (if gamma.isFinite then gamma else Tables.defaultGamma).clamp leastGamma greatestGamma

/-- A number of cells moved into the range from 1 to 1024. -/
def clampExtent (n : UInt16) : UInt16 := if n < 1 then 1 else if 1024 < n then 1024 else n

/-- At most 1000 frames. -/
def clampWarmup (n : UInt32) : UInt32 := if 1000 < n then 1000 else n

/-- A charset that is no palette becomes the compact one. -/
def usableCharset (charset : String) : String :=
  if Palette.accepts charset then charset else Palette.compact

variable (s : Settings)

/-- Every field moved into its range. -/
def clamp : Settings :=
  { s with
    charset := usableCharset s.charset
    gamma := clampGamma s.gamma
    outputWidth := clampExtent s.outputWidth
    outputHeight := clampExtent s.outputHeight
    warmupFrames := clampWarmup s.warmupFrames }

/-- The fields that a layer gives, replaced. -/
def apply (l : Layer) : Settings :=
  { charset := l.charset.getD s.charset
    gamma := l.gamma.getD s.gamma
    outputWidth := l.outputWidth.getD s.outputWidth
    outputHeight := l.outputHeight.getD s.outputHeight
    vectorized := l.vectorized.getD s.vectorized
    benchmark := l.benchmark.getD s.benchmark
    warmupFrames := l.warmupFrames.getD s.warmupFrames }

/-- Applying one layer after another is applying the one on top of the other. -/
theorem apply_over (upper lower : Layer) :
    s.apply (upper.over lower) = (s.apply lower).apply upper := by
  simp only [apply, Layer.over, Option.getD_or]

/-- The number of cells of the output. -/
def maxCells : Nat := s.outputWidth.toNat * s.outputHeight.toNat

/-- The settings of a file: its layer over the defaults. -/
def ofFile (l : Layer) : Settings := (default.apply l).clamp

/-- The settings of a call: the options over the file, or over the defaults without one. -/
def resolve (file : Option Layer) (options : Layer) : Settings :=
  (((file.map ofFile).getD default).apply options).clamp

end Settings

end GlyphMosaic
