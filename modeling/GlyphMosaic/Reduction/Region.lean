import GlyphMosaic.Reduction.Planes

/-!
# Regions, pixel by pixel

What an output cell shows, read off the pixels of its rectangle without summed-area tables, region
maps or planes.  A reduction of any kind has to agree with `Region.cell`.
-/

namespace GlyphMosaic

/-- A rectangle of pixels. -/
structure Region where
  /-- Its columns. -/
  columns : Span
  /-- Its rows. -/
  rows : Span

namespace Region

/-- The rectangle of the output cell in a column and a row. -/
def ofCell (d : Dimensions) (column row : Nat) : Region :=
  ⟨axisSpan d.sourceWidth.toNat d.outputWidth.toNat column,
    axisSpan d.sourceHeight.toNat d.outputHeight.toNat row⟩

variable (r : Region)

/-- The number of pixels. -/
def count : Nat := r.columns.length * r.rows.length

/-- The positions of the pixels in an array whose rows have `width` pixels. -/
def positions (width : Nat) : List Nat :=
  (List.range' r.rows.start r.rows.length).flatMap fun y =>
    (List.range' r.columns.start r.columns.length).map fun x => y * width + x

/-- The level of a channel at a position of a pixel array. -/
def levelAt (pixels : Array Pixel) (channel : Channel) (i : Nat) : Nat :=
  ((pixels.getD i 0).level channel).toNat

/-- The sum of the levels of a channel over the rectangle. -/
def sum (pixels : Array Pixel) (width : Nat) (channel : Channel) : Nat :=
  (r.positions width).foldl (fun total i => total + levelAt pixels channel i) 0

/-- The mean of the levels of a channel over the rectangle, in fixed point. -/
def mean (pixels : Array Pixel) (width : Nat) (channel : Channel) : Nat :=
  fixedMean r.count (r.sum pixels width channel)

/-- The mean colour of the rectangle. -/
def color (pixels : Array Pixel) (width : Nat) : Rgb :=
  ⟨(r.mean pixels width .red).toUInt8, (r.mean pixels width .green).toUInt8,
    (r.mean pixels width .blue).toUInt8⟩

/-- The cell that shows the rectangle. -/
def cell (tables : Tables) (pixels : Array Pixel) (width : Nat) : Cell :=
  tables.cell (r.color pixels width)

/-- The cells of all rectangles, row by row. -/
def cells (tables : Tables) (pixels : Array Pixel) (d : Dimensions) : Array Cell :=
  ((List.range d.outputHeight.toNat).flatMap fun row =>
    (List.range d.outputWidth.toNat).map fun column =>
      (ofCell d column row).cell tables pixels d.sourceWidth.toNat).toArray

end Region

end GlyphMosaic
