import GlyphMosaic.Fault

/-!
# Frame times

`Duration` is a span of time in whole nanoseconds.  `FrameStats` folds the times of frames: the
first `warmup` frames are only counted, the others enter the total, the extremes and the mean.  The
frame rate is measured apart, over windows of at least one second.

The counts are plain numbers; `FrameStats.recordInWords` keeps them in words of 32 bits, where a
count that does not fit, or a difference below zero, is a fault.
-/

namespace GlyphMosaic

/-- A span of time. -/
structure Duration where
  /-- Whole seconds. -/
  seconds : Nat
  /-- Nanoseconds, less than a second. -/
  nanos : Nat

namespace Duration

/-- The duration of some seconds and nanoseconds; the seconds fit 64 bits. -/
def ofParts (seconds nanos : Nat) : Except Fault Duration := do
  let seconds ← fitting 64 (seconds + nanos / 1000000000)
  return ⟨seconds, nanos % 1000000000⟩

/-- In seconds. -/
def toSeconds (d : Duration) : Float :=
  d.seconds.toUInt64.toFloat + d.nanos.toUInt64.toFloat / 1000000000

/-- In milliseconds. -/
def toMilliseconds (d : Duration) : Float := d.toSeconds * 1000

end Duration

/-- What the clocks say when a frame is done. -/
structure Reading where
  /-- The time that the frame took. -/
  elapsed : Duration
  /-- Nanoseconds on a clock that never goes back. -/
  instant : Nat
  /-- Milliseconds on the wall clock. -/
  wallMilliseconds : Float

/-- The times of the frames of one mode. -/
structure FrameStats where
  /-- Frames seen; stops at `2 ^ 32 - 1`. -/
  frameCount : Nat
  /-- Frames that were only counted. -/
  warmupCount : Nat
  /-- The sum of the measured times. -/
  totalMs : Float
  /-- The least measured time. -/
  minMs : Float
  /-- The greatest measured time. -/
  maxMs : Float
  /-- The mean of the measured times. -/
  avgMs : Float
  /-- The frame rate over the last full window. -/
  currentFps : Float
  /-- When the current window began. -/
  windowStart : Option Nat
  /-- The frames of the current window. -/
  windowFrames : Nat

namespace FrameStats

/-- No frame seen. -/
def zero : FrameStats := ⟨0, 0, 0, 0, 0, 0, 0, none, 0⟩

/-- The greatest frame count. -/
def frameLimit : Nat := 2 ^ 32 - 1

variable (s : FrameStats)

/-- The frames that entered the total. -/
def measured : Nat := s.frameCount - s.warmupCount

/-- Counts a frame and, after the warm-up, adds its time. -/
def recordTime (ms : Float) (warmup : Nat) : FrameStats :=
  let s := { s with frameCount := min (s.frameCount + 1) frameLimit }
  if s.warmupCount < warmup then { s with warmupCount := s.warmupCount + 1 }
  else
    let total := s.totalMs + ms
    { s with
      totalMs := total
      minMs := if s.measured == 1 || ms < s.minMs then ms else s.minMs
      maxMs := if s.maxMs < ms then ms else s.maxMs
      avgMs := total / s.measured.toUInt64.toFloat }

/-- Counts a frame for the frame rate; a window of a second or more is closed by it. -/
def recordInstant (now : Nat) : FrameStats :=
  let s := { s with windowFrames := s.windowFrames + 1 }
  match s.windowStart with
  | none => { s with windowStart := some now }
  | some start =>
    let window := (now - start).toUInt64.toFloat / 1000000000
    if 1 ≤ window then
      { s with
        currentFps := s.windowFrames.toUInt64.toFloat / window
        windowFrames := 0
        windowStart := some now }
    else s

/-- Records a frame. -/
def record (r : Reading) (warmup : Nat) : FrameStats :=
  (s.recordTime r.elapsed.toMilliseconds warmup).recordInstant r.instant

/-- The frames that entered the total, as a difference of two words. -/
def measuredInWords : Except Fault Nat := difference s.frameCount s.warmupCount

/-- `recordTime` with both counts in words of 32 bits. -/
def recordTimeInWords (ms : Float) (warmup : Nat) : Except Fault FrameStats := do
  let s := { s with frameCount := min (s.frameCount + 1) frameLimit }
  if s.warmupCount < warmup then
    let warmups ← fitting 32 (s.warmupCount + 1)
    return { s with warmupCount := warmups }
  else
    let measured ← s.measuredInWords
    let total := s.totalMs + ms
    return { s with
      totalMs := total
      minMs := if measured == 1 || ms < s.minMs then ms else s.minMs
      maxMs := if s.maxMs < ms then ms else s.maxMs
      avgMs := total / measured.toUInt64.toFloat }

/-- `record` with both counts in words of 32 bits. -/
def recordInWords (r : Reading) (warmup : Nat) : Except Fault FrameStats := do
  let s ← s.recordTimeInWords r.elapsed.toMilliseconds warmup
  return s.recordInstant r.instant

end FrameStats

end GlyphMosaic
