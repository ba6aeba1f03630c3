import GlyphMosaic.Report.Pretty
import GlyphMosaic.Timing.Meter

/-!
# Benchmark reports

A report gives the statistics of each mode and, when both modes have measured frames and the
vectorized mean is not zero, the ratio of the scalar mean to it.  It is written as text with aligned
columns or as JSON.
-/

namespace GlyphMosaic

/-- The statistics of one mode. -/
structure ModeReport where
  /-- Which mode. -/
  mode : Mode
  /-- Its frames. -/
  stats : FrameStats

/-- The outcome of a benchmark. -/
structure Report where
  /-- The name of the source. -/
  source : String
  /-- Its dimensions. -/
  sourceSize : UInt32 × UInt32
  /-- The dimensions of the output. -/
  grid : UInt16 × UInt16
  /-- Frames asked for in each mode. -/
  frames : Nat
  /-- Frames that are only counted. -/
  warmupFrames : Nat
  /-- The target has vector registers. -/
  vectorizedSupported : Bool
  /-- The modes, in the order they ran. -/
  modes : List ModeReport

namespace Report

variable (r : Report)

/-- The mean of the first entry of a mode that has measured frames. -/
def mean? (mode : Mode) : Option Float :=
  (r.modes.find? fun m => m.mode = mode ∧ 0 < m.stats.measured).map (·.stats.avgMs)

/-- How many times faster the vectorized mode was. -/
def speedup? : Option Float :=
  match r.mean? .scalar, r.mean? .vectorized with
  | some scalar, some vectorized => if 0 < vectorized then some (scalar / vectorized) else none
  | _, _ => none

/-- A machine number by its bits. -/
def valueOf (x : Float) : BinaryValue := BinaryFormat.double.decode x.toBits.toNat

/-- A text moved to the right end of `width` columns. -/
def padLeft (width : Nat) (s : String) : String :=
  String.ofList (List.replicate (width - s.length) ' ') ++ s

/-- A number with fixed places, in `width` columns. -/
def column (width places : Nat) (x : Float) : String :=
  padLeft width (Fixed.render places (valueOf x))

/-- The line of a mode. -/
def modeLine (m : ModeReport) : String :=
  padLeft 6 m.mode.label ++ " : " ++ padLeft 4 (Nat.repr m.stats.measured) ++
    " mesurées  avg " ++ column 8 3 m.stats.avgMs ++
    " ms  min " ++ column 8 3 m.stats.minMs ++
    " ms  max " ++ column 8 3 m.stats.maxMs ++
    " ms  total " ++ column 9 3 m.stats.totalMs ++
    " ms  " ++ column 7 1 m.stats.currentFps ++ " fps"

/-- The lines of the text. -/
def lines : List String :=
  ["source " ++ r.source ++ " (" ++ Nat.repr r.sourceSize.1.toNat ++ "×" ++
      Nat.repr r.sourceSize.2.toNat ++ ") → grille " ++ Nat.repr r.grid.1.toNat ++ "×" ++
      Nat.repr r.grid.2.toNat ++ ", " ++ Nat.repr r.frames ++ " frames, chauffe " ++
      Nat.repr r.warmupFrames,
    "voies SIMD natives : " ++ if r.vectorizedSupported then "oui" else "non (émulées)"] ++
  r.modes.map modeLine ++
  match r.speedup? with
  | some ratio => ["accélération simd/scalar : ×" ++ Fixed.render 2 (valueOf ratio)]
  | none => []

/-- The report as text. -/
def toText : String := String.join (r.lines.map (· ++ "\n"))

/-- The members of a mode. -/
def modeObject (m : ModeReport) : List String :=
  let s := m.stats
  Pretty.object [
    Pretty.member "mode" (Pretty.string m.mode.label),
    Pretty.member "measured_frames" (Pretty.nat s.measured),
    Pretty.member "frame_count" (Pretty.nat s.frameCount),
    Pretty.member "warmup_count" (Pretty.nat s.warmupCount),
    Pretty.member "total_ms" (Pretty.number (valueOf s.totalMs)),
    Pretty.member "min_ms" (Pretty.number (valueOf s.minMs)),
    Pretty.member "max_ms" (Pretty.number (valueOf s.maxMs)),
    Pretty.member "avg_ms" (Pretty.number (valueOf s.avgMs)),
    Pretty.member "current_fps" (Pretty.number (valueOf s.currentFps))]

/-- The report as JSON. -/
def toJson : String :=
  Pretty.render (Pretty.object [
    Pretty.member "source" (Pretty.string r.source),
    Pretty.member "source_size"
      (Pretty.array [Pretty.nat r.sourceSize.1.toNat, Pretty.nat r.sourceSize.2.toNat]),
    Pretty.member "grid" (Pretty.array [Pretty.nat r.grid.1.toNat, Pretty.nat r.grid.2.toNat]),
    Pretty.member "frames" (Pretty.nat r.frames),
    Pretty.member "warmup_frames" (Pretty.nat r.warmupFrames),
    Pretty.member "vectorized_supported" (Pretty.bool r.vectorizedSupported),
    Pretty.member "modes" (Pretty.array (r.modes.map modeObject)),
    Pretty.member "speedup"
      (match r.speedup? with
      | some ratio => Pretty.number (valueOf ratio)
      | none => Pretty.null)])

end Report

end GlyphMosaic
