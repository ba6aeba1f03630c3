import GlyphMosaic.Reduction.Planes

/-!
# Four cells at a time

The second pass on four signed 32-bit lanes: levels are cut to bytes and luminances computed for
four cells together, and the lookups are done lane by lane.  The cells left over when their number
is not a multiple of four go through the plain pass.
-/

namespace GlyphMosaic

/-- Four 32-bit numbers. -/
structure Lanes where
  /-- Lane 0. -/
  a : Int32
  /-- Lane 1. -/
  b : Int32
  /-- Lane 2. -/
  c : Int32
  /-- Lane 3. -/
  d : Int32

namespace Lanes

/-- One number in every lane. -/
def splat (v : Int32) : Lanes := ⟨v, v, v, v⟩

/-- Lane by lane. -/
def map (f : Int32 → Int32) (x : Lanes) : Lanes := ⟨f x.a, f x.b, f x.c, f x.d⟩

/-- Lane by lane, on two operands. -/
def zipWith (f : Int32 → Int32 → Int32) (x y : Lanes) : Lanes :=
  ⟨f x.a y.a, f x.b y.b, f x.c y.c, f x.d y.d⟩

/-- Keeps every lane between `0` and `255`. -/
def clampToByte (x : Lanes) : Lanes := x.map fun v => min (max v 0) 255

/-- The weighted sum of every lane, in thousandths. -/
def weighted (r g b : Lanes) : Lanes :=
  ((r.zipWith (· * ·) (splat 299)).zipWith (· + ·) (g.zipWith (· * ·) (splat 587))).zipWith (· + ·)
    (b.zipWith (· * ·) (splat 114))

/-- The luminance of every lane. -/
def luminance (r g b : Lanes) : Lanes := ((weighted r g b).map (· >>> 10)).clampToByte

/-- Four entries of a plane from position `i` on. -/
def load (plane : Array UInt16) (i : Nat) : Except Fault Lanes := do
  let a ← fetch plane i
  let b ← fetch plane (i + 1)
  let c ← fetch plane (i + 2)
  let d ← fetch plane (i + 3)
  return ⟨a.toUInt32.toInt32, b.toUInt32.toInt32, c.toUInt32.toInt32, d.toUInt32.toInt32⟩

end Lanes

/-- The low byte of a lane. -/
def laneByte (v : Int32) : UInt8 := v.toUInt32.toUInt8

/-- The cell of one lane. -/
def laneCell (t : Tables) (luminance r g b : Int32) : Cell :=
  t.finish (laneByte luminance) ⟨laneByte r, laneByte g, laneByte b⟩

/-- The cells at four positions from `i` on, appended to those before them. -/
def appendLaneCells (t : Tables) (p : Planes) (i : Nat) (out : Array Cell) :
    Except Fault (Array Cell) := do
  let r := (← Lanes.load p.r i).clampToByte
  let g := (← Lanes.load p.g i).clampToByte
  let b := (← Lanes.load p.b i).clampToByte
  let l := Lanes.luminance r g b
  return (((out.push (laneCell t l.a r.a g.a b.a)).push (laneCell t l.b r.b g.b b.b)).push
    (laneCell t l.c r.c g.c b.c)).push (laneCell t l.d r.d g.d b.d)

/-- The cells of `n` groups of four from position `i` on, appended to those before them. -/
def appendLaneGroups (t : Tables) (p : Planes) :
    (n i : Nat) → Array Cell → Except Fault (Array Cell)
  | 0, _, out => .ok out
  | n + 1, i, out => do
    let out ← appendLaneCells t p i out
    appendLaneGroups t p n (i + 4) out

/-- The first `n` cells of the planes, four at a time as far as they go. -/
def mapCellsInLanes (t : Tables) (p : Planes) (n : Nat) : Except Fault (Array Cell) := do
  let out ← appendLaneGroups t p (n / 4) 0 #[]
  appendCells t p (n % 4) (n - n % 4) out

end GlyphMosaic
