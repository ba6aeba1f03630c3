import GlyphMosaic.Frame
import GlyphMosaic.Grid
import GlyphMosaic.Settings
import GlyphMosaic.Timing.Meter

/-!
# The converter

A converter turns frames into grids.  It owns the grid it draws, everything that is reused from
frame to frame, the statistics and the frame clock.

A frame that does not qualify is skipped: `Converter.refusal?` says why, and the converter stays as
it was.  A conversion has two steps: `draw` computes the cells, and `settle` enters what the clocks
said meanwhile into the statistics and counts the frame.  The drawn cells never depend on the
clocks.
-/

namespace GlyphMosaic

/-- Why a frame was skipped. -/
inductive SkipReason where
  /-- There are no pixels. -/
  | noSource
  /-- The source or the output has no extent. -/
  | zeroDimension
  /-- There are fewer pixels than the dimensions call for. -/
  | sourceTooShort
  /-- The output has more cells than there is room for. -/
  | outputTooSmall
  deriving DecidableEq

/-- The name of a reason in messages. -/
def SkipReason.label : SkipReason → String
  | .noSource => "NoSource"
  | .zeroDimension => "ZeroDimension"
  | .sourceTooShort => "SourceTooShort"
  | .outputTooSmall => "OutputTooSmall"

/-- What became of a frame. -/
inductive Outcome where
  | converted (cells : Nat)
  | skipped (reason : SkipReason)
  deriving DecidableEq

/-- The frame was converted. -/
def Outcome.isConverted : Outcome → Bool
  | .converted _ => true
  | .skipped _ => false

/-- What is to be converted: pixels, their dimensions and the dimensions of the output. -/
structure Job where
  /-- The source, row by row. -/
  pixels : Array Pixel
  /-- Source pixels per row. -/
  sourceWidth : UInt32
  /-- Source rows. -/
  sourceHeight : UInt32
  /-- Cells per row. -/
  outputWidth : UInt16
  /-- Rows of cells. -/
  outputHeight : UInt16

namespace Job

variable (j : Job)

/-- The number of cells of the output. -/
def cellCount : Nat := Grid.area j.outputWidth j.outputHeight

/-- The sizes of the source and of the output. -/
def dimensions : Dimensions :=
  ⟨j.sourceWidth, j.sourceHeight, j.outputWidth.toUInt32, j.outputHeight.toUInt32⟩

/-- Why the job cannot be done, whatever the room for its cells. -/
def refusal? : Option SkipReason :=
  if j.pixels.size = 0 then some .noSource
  else if j.sourceWidth = 0 ∨ j.sourceHeight = 0 ∨ j.outputWidth = 0 ∨ j.outputHeight = 0 then
    some .zeroDimension
  else if j.pixels.size < j.sourceWidth.toNat * j.sourceHeight.toNat then some .sourceTooShort
  else none

end Job

/-- The state of a converter. -/
structure Converter where
  /-- The current settings. -/
  settings : Settings
  /-- The tables of the current charset and exponent, once they were needed. -/
  tables : Option Tables
  /-- Between `init` and `shutdown`. -/
  initialized : Bool
  /-- What is reused from frame to frame. -/
  reducer : Reducer
  /-- The last frame that was drawn into the converter's own grid. -/
  grid : Grid
  /-- The greatest number of cells of the own grid. -/
  capacity : Nat
  /-- Use the lanes. -/
  vectorized : Bool
  /-- The statistics. -/
  meter : Meter
  /-- Counts the frames. -/
  clock : FrameClock

namespace Converter

/-- A converter for settings whose charset is a palette. -/
def ofSettings (s : Settings) : Except Palette.Refusal Converter := do
  let _ ← Palette.ofString s.charset
  return {
    settings := s
    tables := none
    initialized := false
    reducer := .empty
    grid := .blank s.outputWidth s.outputHeight
    capacity := s.maxCells
    vectorized := s.vectorized
    meter := (Meter.ofWarmup s.warmupFrames.toNat).setEnabled s.benchmark
    clock := .start }

variable (c : Converter)

/-! ### Life cycle -/

/-- The tables, built from the settings if there are none yet. -/
def currentTables : Tables :=
  match c.tables with
  | some t => t
  | none =>
    match Tables.ofCharset c.settings.charset c.settings.gamma with
    | .ok t => t
    | .error _ => .default

/-- The tables are there. -/
def withTables : Converter := { c with tables := some c.currentTables }

/-- Makes the converter ready, with a blank grid; does nothing if it is ready. -/
def init : Converter :=
  if c.initialized then c
  else { c.withTables with grid := c.grid.clear, initialized := true }

/-- Lets go of everything that is reused from frame to frame; does nothing if the converter is not
ready. -/
def shutdown : Converter :=
  if c.initialized then { c with initialized := false, reducer := .empty } else c

/-- Changes the charset and the exponent. -/
def setPalette (charset : String) (gamma : Binary32) : Except Palette.Refusal Converter := do
  let tables ←
    match c.tables with
    | some t => Prod.snd <$> t.ensure charset gamma
    | none => Tables.ofCharset charset gamma
  return { c with tables := some tables, settings := { c.settings with charset, gamma } }

/-- Changes the charset and the exponent in place: the tables first, then one setting after the
other. -/
def changePalette (charset : String) (gamma : Binary32) : Palette.Change Converter Unit := do
  match (← get).tables with
  | some t =>
    let (answer, t) := (Tables.refresh charset gamma).run.run t
    modify fun c => { c with tables := some t }
    let _ ← MonadExcept.ofExcept answer
  | none =>
    let t ← MonadExcept.ofExcept (Tables.ofCharset charset gamma)
    modify fun c => { c with tables := some t }
  modify fun c => { c with settings := { c.settings with charset } }
  modify fun c => { c with settings := { c.settings with gamma } }

/-! ### Conversion -/

/-- The mode that is switched on. -/
def mode : Mode := .ofFlag c.vectorized

/-- The cells of a job that is not refused, and the converter with what it prepared for them. -/
def draw (j : Job) : Except Fault (Array Cell × Converter) := do
  let (_, prepared) ← c.reducer.prepare j.dimensions
  let (reducer, answer) := prepared.reduce c.mode c.currentTables j.pixels j.cellCount
  let cells ← answer
  return (cells, { c.withTables with reducer })

/-- Enters what the clocks said when a frame was done. -/
def settle (r : Reading) : Converter :=
  { c with meter := c.meter.record c.mode r, clock := c.clock.tick r.wallMilliseconds }

/-- The first half of `convert`: draws a job into the converter's own grid. -/
def drawGrid (j : Job) : Except Fault (Outcome × Converter) :=
  if c.capacity < j.cellCount then .ok (.skipped .outputTooSmall, c)
  else match j.refusal? with
    | some reason => .ok (.skipped reason, c)
    | none => do
      let (cells, c) ← c.draw j
      return (.converted cells.size, { c with grid := ⟨j.outputWidth, j.outputHeight, cells⟩ })

/-- The second half of `convert`: enters the clocks for a converted frame. -/
def settleOutcome (r : Reading) : Outcome → Converter
  | .converted _ => c.settle r
  | .skipped _ => c

/-- Converts a job into the converter's own grid. -/
def convert (j : Job) (r : Reading) : Except Fault (Outcome × Converter) := do
  let (outcome, c) ← c.drawGrid j
  return (outcome, c.settleOutcome r outcome)

/-- Converts a job into the first cells of `out`; whether there is room for them is asked last. -/
def convertInto (j : Job) (out : Array Cell) (r : Reading) :
    Except Fault (Outcome × Array Cell × Converter) :=
  match j.refusal? with
  | some reason => .ok (.skipped reason, out, c)
  | none =>
    if out.size < j.cellCount then .ok (.skipped .outputTooSmall, out, c)
    else do
      let (cells, c) ← c.draw j
      return (.converted cells.size, cells ++ out.drop cells.size, c.settle r)

/-- Draws a job over the first of some cells, and enters the clocks. -/
def drawOver (j : Job) (out : Array Cell) (r : Reading) :
    InPlace Converter (Outcome × Array Cell) := do
  let (cells, drawn) ← (← get).draw j
  set (drawn.settle r)
  return (.converted out.size, cells ++ out.drop cells.size)

/-- Converts a job into the own grid in place: the grid is reshaped for it, its cells are taken out,
drawn over and put back. -/
def convertInPlace (j : Job) (r : Reading) : InPlace Converter Outcome := do
  if (← get).capacity < j.cellCount then return .skipped .outputTooSmall
  match j.refusal? with
  | some reason => return .skipped reason
  | none =>
    modify fun c => { c with grid := c.grid.reshape j.outputWidth j.outputHeight }
    let taken := (← get).grid.cells
    modify fun c => { c with grid := { c.grid with cells := #[] } }
    let (outcome, cells) ← drawOver j taken r
    modify fun c => { c with grid := { c.grid with cells } }
    return outcome

/-- The job of a frame at the size of the settings. -/
def jobOf (f : Frame) : Job :=
  ⟨f.pixels, f.width, f.height, c.settings.outputWidth, c.settings.outputHeight⟩

/-- Converts a frame at the size of the settings. -/
def convertFrame (f : Frame) (r : Reading) : Except Fault (Outcome × Converter) :=
  c.convert (c.jobOf f) r

/-- The number of bytes of the greatest grid. -/
def bufferSize : Nat := c.capacity * Cell.byteCount

/-! ### Mode and statistics -/

/-- Switches the lanes on or off. -/
def setVectorized (on : Bool) : Converter := { c with vectorized := on }

/-- Switches the statistics on, with fresh ones, or off. -/
def setBenchmark (on : Bool) : Converter := { c with meter := c.meter.setEnabled on }

/-- Starts the statistics anew. -/
def resetStats : Converter := { c with meter := c.meter.reset }

/-- Changes the number of frames that are only counted. -/
def setWarmup (n : UInt32) : Converter :=
  { c with settings := { c.settings with warmupFrames := n }, meter := c.meter.setWarmup n.toNat }

/-! ### Repeated calls -/

@[simp] theorem init_init : c.init.init = c.init := by
  unfold init; split <;> simp_all

@[simp] theorem shutdown_shutdown : c.shutdown.shutdown = c.shutdown := by
  unfold shutdown; split <;> simp_all

end Converter

end GlyphMosaic
