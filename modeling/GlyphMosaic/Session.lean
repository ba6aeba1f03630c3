import GlyphMosaic.Export.Format
import GlyphMosaic.Report
import GlyphMosaic.Source.FrameSource

/-!
# Converting from a source

A session joins a converter and a source.  `convertOnce` pulls one frame and writes its grid;
`benchmark` pulls frames for both modes and reports their times.

The clocks belong to whoever runs the session: `Stopwatch.timed` evaluates a piece of work and tells
what the clocks said when it was done.
-/

namespace GlyphMosaic

/-- Evaluates work and says what the clocks said. -/
structure Stopwatch (m : Type → Type) where
  /-- The value of the work, and the clocks when it was done. -/
  timed : {α : Type} → (Unit → α) → m (α × Reading)

/-- A stopwatch for which every frame takes the same time. -/
def Stopwatch.steady (r : Reading) : Stopwatch Id := ⟨fun work => (work (), r)⟩

/-- The target has vector registers.  This is a property of the machine that a program is built for
and of none of its inputs; it is only reported.  It holds of the 64-bit machines in use. -/
def vectorizedSupported : Bool := true

namespace Session

variable {m : Type → Type} [Monad m] {σ : Type} [FrameSource σ]

/-- Converts a frame at the size of the settings, with the time it takes. -/
def convertTimed (watch : Stopwatch m) (c : Converter) (f : Frame) :
    ExceptT Fault m (Outcome × Converter) := do
  let (drawn, reading) ← watch.timed fun _ => c.drawGrid (c.jobOf f)
  let (outcome, c) ← drawn
  return (outcome, c.settleOutcome reading outcome)

/-- Pulls one frame, converts it and writes the grid.  The converter and the source are returned
also when the frame was skipped. -/
def convertOnce (watch : Stopwatch m) (format : OutputFormat) (c : Converter) (s : σ) :
    ExceptT Fault m (Except Failure ByteArray × Converter × σ) := do
  match ← FrameSource.next s with
  | none => return (.error .exhausted, c, s)
  | some (frame, s) =>
    let (outcome, c) ← convertTimed watch c frame
    match outcome with
    | .skipped reason => return (.error (.rejected frame.width frame.height reason), c, s)
    | .converted _ => return (.ok (format.serialize c.grid .empty).1, c, s)

/-- A converter at work on a source, with the dimensions of the last frame. -/
structure Feed (σ : Type) where
  /-- The converter. -/
  converter : Converter
  /-- The source. -/
  source : σ
  /-- The dimensions of the last frame that was pulled. -/
  size : UInt32 × UInt32

/-- Pulls and converts up to `n` frames; skipped frames count, and the first time that there is none
ends it. -/
def feed (watch : Stopwatch m) : (n : Nat) → Feed σ → ExceptT Fault m (Feed σ)
  | 0, state => return state
  | n + 1, state => do
    match ← FrameSource.next state.source with
    | none => return state
    | some (frame, source) =>
      let (_, converter) ← convertTimed watch state.converter frame
      feed watch n ⟨converter, source, (frame.width, frame.height)⟩

/-- Measures `frames` frames in each mode, with fresh statistics, and restores the mode. -/
def benchmark (watch : Stopwatch m) (name : String) (frames : Nat) (c : Converter) (s : σ) :
    ExceptT Fault m (Report × Converter × σ) := do
  let start : Feed σ := ⟨(c.setBenchmark true).setVectorized true, s, FrameSource.nativeSize s⟩
  let first ← feed watch frames start
  let second ← feed watch frames { first with converter := first.converter.setVectorized false }
  let done := (second.converter.setBenchmark false).setVectorized c.vectorized
  let report : Report := {
    source := name
    sourceSize := second.size
    grid := (done.settings.outputWidth, done.settings.outputHeight)
    frames := frames
    warmupFrames := done.settings.warmupFrames.toNat
    vectorizedSupported := vectorizedSupported
    modes := [⟨.vectorized, done.meter.stats .vectorized⟩, ⟨.scalar, done.meter.stats .scalar⟩] }
  return (report, done, second.source)

end Session

end GlyphMosaic
