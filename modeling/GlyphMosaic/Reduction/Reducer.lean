import GlyphMosaic.Reduction.Lanes

/-!
# Reducing a frame

A `Reducer` holds everything that is reused from frame to frame: the region map, the summed-area
tables and the planes of averages.  `Reducer.reduce` runs both passes on a frame; its answer depends
on the frame alone, and what it leaves behind is only ever overwritten.
-/

namespace GlyphMosaic

/-- Which of the two second passes to use. -/
inductive Mode where
  | vectorized
  | scalar
  deriving DecidableEq

namespace Mode

/-- The mode of a flag. -/
def ofFlag (vectorized : Bool) : Mode := if vectorized then .vectorized else .scalar

/-- The name of a mode in reports. -/
def label : Mode → String
  | .vectorized => "simd"
  | .scalar => "scalar"

/-- The second pass of a mode. -/
def cells : Mode → Tables → Planes → Nat → Except Fault (Array Cell)
  | .vectorized => mapCellsInLanes
  | .scalar => mapCells

end Mode

/-- What is reused from frame to frame. -/
structure Reducer where
  /-- The regions of the last dimensions. -/
  regions : RegionMap
  /-- The sums of the last frame. -/
  area : SummedArea
  /-- The averages of the last frame, with older ones behind them. -/
  planes : Planes

namespace Reducer

/-- A reducer that never saw a frame. -/
def empty : Reducer := ⟨.empty, .empty, .empty⟩

variable (s : Reducer)

/-- Prepares the regions for given dimensions; tells whether they had to be built anew. -/
def prepare (d : Dimensions) : Except Fault (Bool × Reducer) := do
  let (rebuilt, regions) ← s.regions.build d
  return (rebuilt, { s with regions })

/-- Builds the sums of a frame of the prepared dimensions. -/
def sum (pixels : Array Pixel) : Except Fault Reducer :=
  match s.regions.dims with
  | none => .error .shortSource
  | some d => do
    let area ← s.area.build pixels d.sourceWidth.toNat d.sourceHeight.toNat
    return { s with area }

/-- Averages the regions of the summed frame into planes of at least `n` entries.  The reducer is
returned also at a fault: the planes keep what was written before it. -/
def average (n : Nat) : Reducer × Except Fault Unit :=
  let planes := s.planes.ensure n
  match cellAverages s.area s.regions with
  | .error fault => ({ s with planes }, .error fault)
  | .ok averages =>
    let (planes, answer) := planes.overwrite averages
    ({ s with planes }, answer)

/-- The `n` cells of a frame of the prepared dimensions. -/
def reduce (mode : Mode) (tables : Tables) (pixels : Array Pixel) (n : Nat) :
    Reducer × Except Fault (Array Cell) :=
  match s.sum pixels with
  | .error fault => (s, .error fault)
  | .ok summed =>
    let (averaged, answer) := summed.average n
    (averaged, do
      answer
      mode.cells tables averaged.planes n)

end Reducer

end GlyphMosaic
