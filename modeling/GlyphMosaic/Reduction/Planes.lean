import GlyphMosaic.SummedArea
import GlyphMosaic.Tiling.RegionMap
import GlyphMosaic.Tone

/-!
# From regions to cells

The reduction of a frame has two passes.  The first averages each region and stores the averages in
three planes of 16-bit levels, one for each channel; the planes never shrink, so entries of earlier,
larger frames stay behind the current ones.  The second turns the levels at each position into a
cell.

`mapCells` is the plain second pass.  `GlyphMosaic.Reduction.Lanes` has one that takes four cells at
a time.
-/

namespace GlyphMosaic

/-- The planes of averages. -/
abbrev Planes := Channels (Array UInt16)

namespace Planes

/-- Planes without entries. -/
def empty : Planes := ⟨#[], #[], #[]⟩

/-- Extends the planes with zeros to at least `n` entries, by the size of the red one. -/
def ensure (p : Planes) (n : Nat) : Planes :=
  if p.r.size < n then p.map fun _ plane => plane ++ Array.replicate (n - plane.size) 0 else p

/-- The first entries replaced by new ones, as many as the plane has. -/
def overlay (plane fresh : Array UInt16) : Array UInt16 :=
  fresh.take plane.size ++ plane.drop fresh.size

/-- Writes averages from the front; it is a fault if there are more of them than entries. -/
def overwrite (p : Planes) (averages : Array (Channels UInt16)) : Planes × Except Fault Unit :=
  (p.map fun channel plane => overlay plane (averages.map (·.get channel)),
    if p.r.size < averages.size then .error .outOfRange else .ok ())

end Planes

/-- An average as a 16-bit level. -/
def planeLevel (average : Nat) : UInt16 := UInt16.ofNat (min average 65535)

/-- The averages of the cell in a column and a row; a cell without pixels is black. -/
def cellAverage (area : SummedArea) (regions : RegionMap) (row : Span) (i : Nat) (column : Span) :
    Except Fault (Channels UInt16) := do
  if ← regions.isDegenerate i then return ⟨0, 0, 0⟩
  let sums ← area.rectangle column.start column.stop row.start row.stop
  Channels.tabulate fun channel => planeLevel <$> regions.average i (sums.get channel)

/-- The averages of all cells, row by row; the number of averages before a cell is its position. -/
def cellAverages (area : SummedArea) (regions : RegionMap) :
    Except Fault (Array (Channels UInt16)) :=
  regions.rows.foldlM (fun acc row =>
    regions.columns.foldlM (fun acc column =>
      acc.push <$> cellAverage area regions row acc.size column) acc) #[]

/-- A 16-bit level cut to a byte. -/
def clampToByte (v : UInt16) : UInt8 := if v < 255 then v.toUInt8 else 255

/-- The cell of three 16-bit levels. -/
def Tables.cellOfLevels (t : Tables) (r g b : UInt16) : Cell :=
  t.cell ⟨clampToByte r, clampToByte g, clampToByte b⟩

/-- The cell at a position of the planes. -/
def planeCell (t : Tables) (p : Planes) (i : Nat) : Except Fault Cell := do
  let r ← fetch p.r i
  let g ← fetch p.g i
  let b ← fetch p.b i
  return t.cellOfLevels r g b

/-- The cells at `n` positions from `i` on, appended to those before them. -/
def appendCells (t : Tables) (p : Planes) : (n i : Nat) → Array Cell → Except Fault (Array Cell)
  | 0, _, out => .ok out
  | n + 1, i, out => do
    let cell ← planeCell t p i
    appendCells t p n (i + 1) (out.push cell)

/-- The first `n` cells of the planes. -/
def mapCells (t : Tables) (p : Planes) (n : Nat) : Except Fault (Array Cell) :=
  appendCells t p n 0 #[]

end GlyphMosaic
