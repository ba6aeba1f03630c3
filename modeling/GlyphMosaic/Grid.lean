import GlyphMosaic.Fault
import GlyphMosaic.Tone

/-!
# Grids of coloured glyphs

A grid is a row-major array of cells with a width and a height.  `Grid.rows` cuts the array into
rows; a grid of width `0` has none.
-/

namespace GlyphMosaic

/-- Four bytes of a cell: its glyph, or a question mark where the glyph is not ASCII, and its
channels. -/
def Cell.bytes (c : Cell) : List UInt8 :=
  [if c.glyph.toNat < 128 then c.glyph.toNat.toUInt8 else 63, c.color.r, c.color.g, c.color.b]

/-- The cells that bytes stand for, four bytes each. -/
def Cell.ofBytes : List UInt8 → List Cell
  | glyph :: r :: g :: b :: rest => ⟨Char.ofNat glyph.toNat, ⟨r, g, b⟩⟩ :: ofBytes rest
  | _ => []

/-- The cell as far as its bytes tell: a glyph that is not ASCII becomes a question mark. -/
def Cell.ascii (c : Cell) : Cell := if c.glyph.toNat < 128 then c else { c with glyph := '?' }

/-- The number of bytes of a cell. -/
def Cell.byteCount : Nat := 4

/-- A rectangle of cells, row by row. -/
structure Grid where
  /-- Cells per row. -/
  width : UInt16
  /-- Number of rows. -/
  height : UInt16
  /-- The cells, the first row first. -/
  cells : Array Cell

namespace Grid

/-- The number of cells of a rectangle. -/
def area (width height : UInt16) : Nat := width.toNat * height.toNat

/-- The array has a cell for every place. -/
def IsFull (g : Grid) : Prop := g.cells.size = area g.width g.height

instance (g : Grid) : Decidable g.IsFull := by unfold IsFull; infer_instance

/-- A grid of blanks. -/
def blank (width height : UInt16) : Grid :=
  ⟨width, height, Array.replicate (area width height) .blank⟩

/-- The first `n` cells, with blanks behind them where there are fewer. -/
def resizeCells (cells : Array Cell) (n : Nat) : Array Cell :=
  if n ≤ cells.size then cells.take n else cells ++ Array.replicate (n - cells.size) .blank

variable (g : Grid)

/-- Changes the dimensions; the array keeps its first cells and gains blanks at its end. -/
def reshape (width height : UInt16) : Grid :=
  ⟨width, height, resizeCells g.cells (area width height)⟩

/-- The position of a cell in the array. -/
def position (x y : UInt16) : Nat := y.toNat * g.width.toNat + x.toNat

/-- Replaces the cell at a place. -/
def set (x y : UInt16) (c : Cell) : Except Fault Grid :=
  if g.position x y < g.cells.size then
    .ok { g with cells := g.cells.setIfInBounds (g.position x y) c }
  else .error .outOfRange

/-- The cell at a place. -/
def get (x y : UInt16) : Except Fault Cell := fetch g.cells (g.position x y)

/-- Makes every cell blank. -/
def clear : Grid := { g with cells := Array.replicate g.cells.size .blank }

/-- The array cut into rows. -/
def rows : List (List Cell) :=
  let step := max g.width.toNat 1
  (List.range ((g.cells.size + step - 1) / step)).map fun y =>
    (g.cells.extract (y * step) ((y + 1) * step)).toList

/-! ### Sizes -/

@[simp] theorem size_resizeCells (cells : Array Cell) (n : Nat) :
    (resizeCells cells n).size = n := by
  unfold resizeCells
  split
  · simp only [Array.take_eq_extract, Array.size_extract]; omega
  · simp only [Array.size_append, Array.size_replicate]; omega

theorem isFull_blank (width height : UInt16) : (blank width height).IsFull := by
  simp [blank, IsFull]

variable {g}

theorem isFull_reshape (width height : UInt16) : (g.reshape width height).IsFull := by
  simp [reshape, IsFull]

theorem IsFull.clear (h : g.IsFull) : g.clear.IsFull := by
  simpa [Grid.clear, IsFull] using h

theorem IsFull.set (h : g.IsFull) {x y : UInt16} {c : Cell} {g' : Grid}
    (hs : g.set x y c = .ok g') : g'.IsFull := by
  unfold Grid.set at hs
  split at hs
  · cases hs; simpa [IsFull] using h
  · cases hs

end Grid

end GlyphMosaic
