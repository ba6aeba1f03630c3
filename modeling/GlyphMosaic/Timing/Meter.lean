import GlyphMosaic.Reduction.Reducer
import GlyphMosaic.Timing.Stats

/-!
# Measuring frames

A `Meter` keeps the statistics of both modes and measures only while it is on.  Switching it on,
also when it is on already, starts both statistics anew.  `FrameClock` numbers the frames.
-/

namespace GlyphMosaic

/-- The statistics of both modes. -/
structure Meter where
  /-- Frames are measured. -/
  enabled : Bool
  /-- How many frames are only counted. -/
  warmup : Nat
  /-- Of the vectorized mode. -/
  vectorized : FrameStats
  /-- Of the scalar mode. -/
  scalar : FrameStats

namespace Meter

/-- A meter that is off. -/
def ofWarmup (warmup : Nat) : Meter := ⟨false, warmup, .zero, .zero⟩

variable (m : Meter)

/-- Starts both statistics anew. -/
def reset : Meter := { m with vectorized := .zero, scalar := .zero }

/-- Switches the meter on, with fresh statistics, or off. -/
def setEnabled (on : Bool) : Meter :=
  if on then { m.reset with enabled := true } else { m with enabled := false }

/-- Changes the number of frames that are only counted. -/
def setWarmup (warmup : Nat) : Meter := { m with warmup }

/-- The statistics of a mode. -/
def stats : Mode → FrameStats
  | .vectorized => m.vectorized
  | .scalar => m.scalar

/-- Records a frame of a mode if the meter is on. -/
def record (mode : Mode) (r : Reading) : Meter :=
  if m.enabled then
    match mode with
    | .vectorized => { m with vectorized := m.vectorized.record r m.warmup }
    | .scalar => { m with scalar := m.scalar.record r m.warmup }
  else m

end Meter

/-- The number of the last frame and the time it was done. -/
structure FrameClock where
  /-- Counts frames, modulo `2 ^ 32`. -/
  frameId : UInt32
  /-- Milliseconds on the wall clock; `0` before the first frame. -/
  lastMs : Float

namespace FrameClock

/-- Before the first frame. -/
def start : FrameClock := ⟨0, 0⟩

/-- One frame is done. -/
def tick (c : FrameClock) (wallMilliseconds : Float) : FrameClock :=
  ⟨c.frameId + 1, wallMilliseconds⟩

end FrameClock

end GlyphMosaic
