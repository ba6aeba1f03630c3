import GlyphMosaic.Converter

/-!
# Histories of a converter

A `Call` is one thing that can be done to a converter, and `Converter.after` is what the converter
is then.  `Converter.HasHistory` holds of the converters that a history of calls leads to.
-/

namespace GlyphMosaic

namespace Converter

/-- What can be done to a converter. -/
inductive Call where
  | init
  | shutdown
  | convert (job : Job) (reading : Reading)
  | convertInto (job : Job) (out : Array Cell) (reading : Reading)
  | convertFrame (frame : Frame) (reading : Reading)
  | setPalette (charset : String) (gamma : Binary32)
  | setVectorized (on : Bool)
  | setBenchmark (on : Bool)
  | setWarmup (n : UInt32)
  | resetStats

variable (c : Converter)

/-- What became of the frame of a call, if it has one, and the converter after the call.  A palette
that is refused leaves the converter as it is. -/
def answer : Call → Except Fault (Option Outcome × Converter)
  | .init => .ok (none, c.init)
  | .shutdown => .ok (none, c.shutdown)
  | .convert job reading => do
    let (outcome, c) ← c.convert job reading
    return (some outcome, c)
  | .convertInto job out reading => do
    let (outcome, _, c) ← c.convertInto job out reading
    return (some outcome, c)
  | .convertFrame frame reading => do
    let (outcome, c) ← c.convertFrame frame reading
    return (some outcome, c)
  | .setPalette charset gamma =>
    match c.setPalette charset gamma with
    | .ok c => .ok (none, c)
    | .error _ => .ok (none, c)
  | .setVectorized on => .ok (none, c.setVectorized on)
  | .setBenchmark on => .ok (none, c.setBenchmark on)
  | .setWarmup n => .ok (none, c.setWarmup n)
  | .resetStats => .ok (none, c.resetStats)

/-- The converter after a call. -/
def after (call : Call) : Except Fault Converter := Prod.snd <$> c.answer call

/-- The converter after a history of calls. -/
def afterAll (history : List Call) : Except Fault Converter := history.foldlM after c

/-- A source has fewer pixels than fit 32 bits: there are fewer, or its dimensions call for
fewer. -/
def IsModerate (pixels : Array Pixel) (width height : UInt32) : Prop :=
  min pixels.size (width.toNat * height.toNat) < 2 ^ 32

/-- The source of a call, if it has one, has fewer pixels than fit 32 bits. -/
def Call.IsModerate : Call → Prop
  | .convert job _ => Converter.IsModerate job.pixels job.sourceWidth job.sourceHeight
  | .convertInto job _ _ => Converter.IsModerate job.pixels job.sourceWidth job.sourceHeight
  | .convertFrame frame _ => Converter.IsModerate frame.pixels frame.width frame.height
  | _ => True

/-- A history leads to this converter from one that was made for settings, whatever its sources are;
none of its calls faults. -/
def HasHistory : Prop :=
  ∃ settings start history, ofSettings settings = .ok start ∧ start.afterAll history = .ok c

end Converter

end GlyphMosaic
