import GlyphMosaic.Fault
import GlyphMosaic.Tiling.Axis

/-!
# The map of regions

A region map pairs every output cell with a rectangle of the source: the span of its column times
the span of its row.  It keeps the number of pixels of each rectangle and that number's reciprocal
in 16-bit fixed point, so that an average is a multiplication and a shift.  Above 65536 pixels the
reciprocal is `0` and the average divides.

A map remembers the dimensions it was built for and is rebuilt only when they change.
-/

namespace GlyphMosaic

/-- The sizes of a source and of the output drawn from it. -/
structure Dimensions where
  /-- Source pixels per row. -/
  sourceWidth : UInt32
  /-- Source rows. -/
  sourceHeight : UInt32
  /-- Output cells per row. -/
  outputWidth : UInt32
  /-- Output rows. -/
  outputHeight : UInt32
  deriving DecidableEq

/-- One in 16-bit fixed point. -/
def fixedOne : Nat := 65536

/-- The fixed-point reciprocal of a pixel count; `0` for none. -/
def reciprocal (count : Nat) : Nat := fixedOne / count

/-- The mean of `count` levels with a given sum: by the reciprocal, or by division where that is
`0`; `0` for no levels. -/
def fixedMean (count sum : Nat) : Nat :=
  if reciprocal count ≠ 0 then sum * reciprocal count / fixedOne else sum / count

/-- The rectangles of all output cells. -/
structure RegionMap where
  /-- The span of each output column. -/
  columns : Array Span
  /-- The span of each output row. -/
  rows : Array Span
  /-- The number of pixels of each cell, row by row. -/
  counts : Array Nat
  /-- The reciprocal of each count. -/
  reciprocals : Array Nat
  /-- The dimensions the map was built for. -/
  dims : Option Dimensions

namespace RegionMap

/-- A map that was never built. -/
def empty : RegionMap := ⟨#[], #[], #[], #[], none⟩

/-- The pixel counts of one row of cells, appended to those before it; each fits 32 bits. -/
def appendCounts (columns : Array Span) (row : Span) (counts : Array Nat) :
    Except Fault (Array Nat) :=
  columns.foldlM (fun acc column => acc.push <$> fitting 32 (row.length * column.length)) counts

/-- The pixel counts of all cells, row by row. -/
def countCells (columns rows : Array Span) : Except Fault (Array Nat) :=
  rows.foldlM (fun acc row => appendCounts columns row acc) #[]

/-- The map for given dimensions. -/
def ofDimensions (d : Dimensions) : Except Fault RegionMap := do
  let columns ← axisSpansInWords d.sourceWidth d.outputWidth
  let rows ← axisSpansInWords d.sourceHeight d.outputHeight
  let counts ← countCells columns rows
  return ⟨columns, rows, counts, counts.map reciprocal, some d⟩

variable (m : RegionMap)

/-- The map for given dimensions, and whether it had to be built anew. -/
def build (d : Dimensions) : Except Fault (Bool × RegionMap) :=
  if m.dims = some d then .ok (false, m)
  else do
    let fresh ← ofDimensions d
    return (true, fresh)

/-- Appends the pixel count of a cell and its reciprocal. -/
def pushCell (row column : Span) : InPlace RegionMap Unit := do
  let count ← fitting 32 (row.length * column.length)
  modify fun m => { m with counts := m.counts.push count }
  modify fun m => { m with reciprocals := m.reciprocals.push (reciprocal count) }

/-- Appends those of a row of cells. -/
def pushRow (row : Span) : InPlace RegionMap Unit := do
  (← get).columns.forM (pushCell row)

/-- Puts the map for given dimensions in the place of another, and tells whether it had to be built
anew: the spans are replaced, the counts and the reciprocals cleared and filled again, and the
dimensions remembered last. -/
def rebuild (d : Dimensions) : InPlace RegionMap Bool := do
  if (← get).dims = some d then return false
  let columns ← axisSpansInWords d.sourceWidth d.outputWidth
  modify fun m => { m with columns }
  let rows ← axisSpansInWords d.sourceHeight d.outputHeight
  modify fun m => { m with rows }
  modify fun m => { m with counts := #[] }
  modify fun m => { m with reciprocals := #[] }
  (← get).rows.forM pushRow
  modify fun m => { m with dims := some d }
  return true

/-- The number of cells. -/
def cellCount : Nat := m.columns.size * m.rows.size

/-- The position of a cell in the stored arrays. -/
def position (column row : Nat) : Nat := row * m.columns.size + column

/-- The stored reciprocal of a cell. -/
def reciprocalAt (column row : Nat) : Except Fault Nat :=
  fetch m.reciprocals (m.position column row)

/-- The mean of the pixels of a cell, from their sum; the product with the reciprocal fits 64 bits
and the mean is kept below `2 ^ 32`. -/
def average (i sum : Nat) : Except Fault Nat := do
  let inverse ← fetch m.reciprocals i
  let mean ←
    if inverse ≠ 0 then do
      let product ← fitting 64 (sum * inverse)
      pure (product / fixedOne)
    else do
      let count ← fetch m.counts i
      pure (sum / count)
  return min mean (2 ^ 32 - 1)

/-- A cell has no pixels. -/
def isDegenerate (i : Nat) : Except Fault Bool := do
  let count ← fetch m.counts i
  return count == 0

end RegionMap

end GlyphMosaic
