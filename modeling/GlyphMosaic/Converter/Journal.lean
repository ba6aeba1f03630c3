import GlyphMosaic.Converter.Call

/-!
# Journals

A `Journal` is a converter with an entry for each call that was made to it: the call, what became of
its frame, and the switches that were in force.  The switches follow from the settings and the calls
alone.  What the statistics of a mode should say can be read off the entries: `Journal.counted`
lists the conversions since the statistics last started anew that were made in the mode while frames
were measured.
-/

namespace GlyphMosaic

namespace Converter

/-- The switches that decide where a conversion is counted. -/
structure Switches where
  /-- The mode that is switched on. -/
  mode : Mode
  /-- Frames are measured. -/
  measuring : Bool
  /-- How many frames are only counted. -/
  warmup : Nat

namespace Switches

/-- The switches of a new converter. -/
def ofSettings (s : Settings) : Switches :=
  ⟨.ofFlag s.vectorized, s.benchmark, s.warmupFrames.toNat⟩

/-- The switches after a call. -/
def after (s : Switches) : Call → Switches
  | .setVectorized on => { s with mode := .ofFlag on }
  | .setBenchmark on => { s with measuring := on }
  | .setWarmup n => { s with warmup := n.toNat }
  | _ => s

end Switches

/-- The statistics start anew with this call. -/
def Call.startsAnew : Call → Bool
  | .setBenchmark on => on
  | .resetStats => true
  | _ => false

/-- A call that was made. -/
structure Entry where
  /-- The switches in force when it was made. -/
  switches : Switches
  /-- The call. -/
  call : Call
  /-- What became of its frame, if it has one. -/
  outcome : Option Outcome

/-- A frame was converted. -/
def Entry.isConverted (e : Entry) : Bool := e.outcome.any Outcome.isConverted

/-- A frame was converted in a mode while frames were measured. -/
def Entry.countsFor (mode : Mode) (e : Entry) : Bool :=
  e.isConverted && e.switches.measuring && e.switches.mode == mode

/-- A converter with the calls that were made to it. -/
structure Journal where
  /-- The converter now. -/
  converter : Converter
  /-- The switches now. -/
  switches : Switches
  /-- The calls, the first one first. -/
  entries : List Entry

namespace Journal

/-- The journal of a new converter. -/
def ofSettings (s : Settings) : Except Palette.Refusal Journal := do
  let converter ← Converter.ofSettings s
  return ⟨converter, .ofSettings s, []⟩

variable (j : Journal)

/-- The journal after a call. -/
def after (call : Call) : Except Fault Journal := do
  let (outcome, converter) ← j.converter.answer call
  return ⟨converter, j.switches.after call, j.entries ++ [⟨j.switches, call, outcome⟩]⟩

/-- The journal after a history of calls. -/
def afterAll (history : List Call) : Except Fault Journal := history.foldlM after j

/-- The number of frames that were converted. -/
def conversions : Nat := j.entries.countP Entry.isConverted

/-- The entries behind the last one with which the statistics started anew. -/
def recent : List Entry := (j.entries.reverse.takeWhile fun e => !e.call.startsAnew).reverse

/-- The recent conversions in a mode while frames were measured. -/
def counted (mode : Mode) : List Entry := j.recent.filter (Entry.countsFor mode)

end Journal

/-- The number of warm-up frames among frames at each of which a warm-up is in force: a frame is one
if there were fewer before it. -/
def warmupsAmong (warmups : List Nat) : Nat :=
  warmups.foldl (fun n warmup => if n < warmup then n + 1 else n) 0

end Converter

end GlyphMosaic
