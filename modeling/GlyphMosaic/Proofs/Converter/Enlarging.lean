import GlyphMosaic.Proofs.Converter.Conversions
import GlyphMosaic.Proofs.Converter.Histories
import GlyphMosaic.Proofs.Tiling.Covering
import GlyphMosaic.Proofs.Tiling.Means

/-!
# Enlarged frames

An output with at least as many columns and rows as the source has one pixel in each region, and its
mean is that pixel: the frame is sampled.

* `Region.color_pixel` : the mean colour of a region of one pixel.
* `Job.IsEnlarging` and `Job.sample` : jobs of this kind, and the pixel of each of their cells.
* `Job.IsEnlarging.exists_sample` : no pixel is left out.
* `Job.IsSampledBy` : planes and cells hold the pixels so, without a loss.
* `Converter.HasHistory.enlarged_frame` : **a converter samples an enlarged frame**, in either mode
  and whatever came before it; at the size of the source the cells are the pixels in order.
-/

namespace GlyphMosaic

/-! ### Regions of one pixel -/

namespace Region

/-- The region of one pixel. -/
def pixel (x y : Nat) : Region := ⟨⟨x, x + 1⟩, ⟨y, y + 1⟩⟩

variable (x y : Nat) (pixels : Array Pixel) (width : Nat)

theorem count_pixel : (pixel x y).count = 1 := by
  simp [pixel, count, Span.length]

theorem sum_pixel (channel : Channel) :
    (pixel x y).sum pixels width channel = levelAt pixels channel (y * width + x) := by
  simp [sum_eq_sum_map, positions, pixel, Span.length]

theorem mean_pixel (channel : Channel) :
    (pixel x y).mean pixels width channel = levelAt pixels channel (y * width + x) := by
  rw [mean, count_pixel, sum_pixel, fixedMean_eq_div_of_dvd (Nat.one_dvd _), Nat.div_one]

theorem color_pixel : (pixel x y).color pixels width = (pixels.getD (y * width + x) 0).rgb := by
  simp only [color, mean_pixel, levelAt, Pixel.rgb]
  simp

end Region

/-! ### Enlarging jobs -/

namespace Job

/-- A frame with an extent is to be converted to a grid with no fewer columns and rows. -/
structure IsEnlarging (j : Job) : Prop where
  sourceWidth_pos : 0 < j.sourceWidth.toNat
  sourceHeight_pos : 0 < j.sourceHeight.toNat
  width_le : j.sourceWidth.toNat ≤ j.outputWidth.toNat
  height_le : j.sourceHeight.toNat ≤ j.outputHeight.toNat
  /-- There are as many pixels as the dimensions call for. -/
  size : j.sourceWidth.toNat * j.sourceHeight.toNat ≤ j.pixels.size

/-- The position of the pixel that a cell of an enlarged frame shows. -/
def sample (j : Job) (column row : Nat) : Nat :=
  row * j.sourceHeight.toNat / j.outputHeight.toNat * j.sourceWidth.toNat +
    column * j.sourceWidth.toNat / j.outputWidth.toNat

namespace IsEnlarging

variable {j : Job} (hj : j.IsEnlarging) {column row : Nat}

include hj

theorem outputWidth_pos : 0 < j.outputWidth.toNat :=
  Nat.lt_of_lt_of_le hj.sourceWidth_pos hj.width_le

theorem outputHeight_pos : 0 < j.outputHeight.toNat :=
  Nat.lt_of_lt_of_le hj.sourceHeight_pos hj.height_le

theorem isModerate : j.IsModerate := by
  -- the source is no larger than the grid, whose dimensions have 16 bits
  refine isModerate_of_lt ?_
  have hwidth := Nat.le_sub_one_of_lt (Nat.lt_of_le_of_lt hj.width_le j.outputWidth.toNat_lt)
  have hheight := Nat.le_sub_one_of_lt (Nat.lt_of_le_of_lt hj.height_le j.outputHeight.toNat_lt)
  have := Nat.mul_le_mul hwidth hheight
  omega

theorem refusal?_eq_none : j.refusal? = none :=
  refusal?_eq_none_of_pos hj.sourceWidth_pos hj.sourceHeight_pos hj.outputWidth_pos
    hj.outputHeight_pos hj.size

/-- The region of a cell is one pixel. -/
theorem ofCell_eq (hc : column < j.outputWidth.toNat) (hr : row < j.outputHeight.toNat) :
    Region.ofCell j.dimensions column row =
      .pixel (axisCut j.sourceWidth.toNat j.outputWidth.toNat column)
        (axisCut j.sourceHeight.toNat j.outputHeight.toNat row) := by
  rw [Region.ofCell, outputWidth_dimensions, outputHeight_dimensions]
  change Region.mk (axisSpan j.sourceWidth.toNat _ _) (axisSpan j.sourceHeight.toNat _ _) = _
  rw [axisSpan_of_ge hj.sourceWidth_pos hj.width_le hc,
    axisSpan_of_ge hj.sourceHeight_pos hj.height_le hr]
  rfl

theorem sample_lt (hc : column < j.outputWidth.toNat) (hr : row < j.outputHeight.toNat) :
    j.sample column row < j.sourceWidth.toNat * j.sourceHeight.toNat := by
  have hx : axisCut j.sourceWidth.toNat j.outputWidth.toNat column < j.sourceWidth.toNat :=
    axisSpan_start_lt hj.sourceWidth_pos hc
  have hy : axisCut j.sourceHeight.toNat j.outputHeight.toNat row < j.sourceHeight.toNat :=
    axisSpan_start_lt hj.sourceHeight_pos hr
  rw [Nat.mul_comm j.sourceWidth.toNat]
  exact rowMajor_lt hx hy

/-- **No pixel is left out.** -/
theorem exists_sample {i : Nat} (hi : i < j.sourceWidth.toNat * j.sourceHeight.toNat) :
    ∃ column < j.outputWidth.toNat, ∃ row < j.outputHeight.toNat, j.sample column row = i := by
  have hx := Nat.mod_lt i hj.sourceWidth_pos
  have hy : i / j.sourceWidth.toNat < j.sourceHeight.toNat := Nat.div_lt_of_lt_mul hi
  obtain ⟨column, hc, hcolumn⟩ := exists_axisSpan_contains hj.outputWidth_pos hx
  obtain ⟨row, hr, hrow⟩ := exists_axisSpan_contains hj.outputHeight_pos hy
  rw [axisSpan_of_ge hj.sourceWidth_pos hj.width_le hc] at hcolumn
  rw [axisSpan_of_ge hj.sourceHeight_pos hj.height_le hr] at hrow
  have hx' : axisCut j.sourceWidth.toNat j.outputWidth.toNat column = i % j.sourceWidth.toNat :=
    Nat.le_antisymm hcolumn.1 (Nat.le_of_lt_succ hcolumn.2)
  have hy' : axisCut j.sourceHeight.toNat j.outputHeight.toNat row = i / j.sourceWidth.toNat :=
    Nat.le_antisymm hrow.1 (Nat.le_of_lt_succ hrow.2)
  refine ⟨column, hc, row, hr, ?_⟩
  unfold axisCut at hx' hy'
  rw [sample, hx', hy', Nat.mul_comm]
  exact Nat.div_add_mod _ _

theorem sample_of_eq (hwidth : j.outputWidth.toNat = j.sourceWidth.toNat)
    (hheight : j.outputHeight.toNat = j.sourceHeight.toNat) (column row : Nat) :
    j.sample column row = row * j.sourceWidth.toNat + column := by
  rw [sample, hwidth, hheight, Nat.mul_div_cancel _ hj.sourceWidth_pos,
    Nat.mul_div_cancel _ hj.sourceHeight_pos]

end IsEnlarging

/-- An enlarged frame is sampled: the levels of a cell's pixel are in the planes as they are, and
the cell is that of its colour. -/
structure IsSampledBy (j : Job) (tables : Tables) (planes : Planes) (cells : Array Cell) :
    Prop where
  /-- There is a cell for each place. -/
  size : cells.size = j.outputWidth.toNat * j.outputHeight.toNat
  /-- It shows the pixel at its sample. -/
  cell : ∀ column < j.outputWidth.toNat, ∀ row < j.outputHeight.toNat, ∃ p,
    j.pixels[j.sample column row]? = some p ∧
    (∀ channel, (planes.get channel)[row * j.outputWidth.toNat + column]? =
      some (p.level channel).toUInt16) ∧
    cells[row * j.outputWidth.toNat + column]? = some (tables.cell p.rgb)
  /-- Every pixel is the sample of a cell. -/
  shown : ∀ i < j.sourceWidth.toNat * j.sourceHeight.toNat,
    ∃ column < j.outputWidth.toNat, ∃ row < j.outputHeight.toNat, j.sample column row = i
  /-- At the size of the source the cells are the pixels in order. -/
  inOrder : j.outputWidth.toNat = j.sourceWidth.toNat →
    j.outputHeight.toNat = j.sourceHeight.toNat →
    cells = (j.pixels.take (j.sourceWidth.toNat * j.sourceHeight.toNat)).map fun p =>
      tables.cell p.rgb

namespace IsEnlarging

variable {j : Job} (hj : j.IsEnlarging) {column row : Nat}

include hj

theorem exists_pixel (hc : column < j.outputWidth.toNat) (hr : row < j.outputHeight.toNat) :
    ∃ p, j.pixels[j.sample column row]? = some p ∧ j.pixels.getD (j.sample column row) 0 = p := by
  have hlt := Nat.lt_of_lt_of_le (hj.sample_lt hc hr) hj.size
  exact ⟨_, Array.getElem?_eq_getElem hlt, by
    rw [Array.getD_eq_getD_getElem?, Array.getElem?_eq_getElem hlt, Option.getD_some]⟩

theorem get_levels (hc : column < j.outputWidth.toNat) (hr : row < j.outputHeight.toNat)
    (channel : Channel) : (j.levels (row * j.outputWidth.toNat + column)).get channel =
      ((j.pixels.getD (j.sample column row) 0).level channel).toUInt16 := by
  have hregion := Dimensions.regionAt_position row (j.outputWidth_dimensions ▸ hc)
  rw [outputWidth_dimensions] at hregion
  rw [levels, hregion, hj.ofCell_eq hc hr, Region.get_levels, Region.mean_pixel]
  apply UInt16.toNat_inj.1
  rw [toNat_planeLevel (SummedArea.levelAt_le _ _ _)]
  simp [Region.levelAt, sample, axisCut]

theorem getElem?_cells (hc : column < j.outputWidth.toNat) (hr : row < j.outputHeight.toNat)
    (tables : Tables) :
    (Region.cells tables j.pixels j.dimensions)[row * j.outputWidth.toNat + column]? =
      some (tables.cell (j.pixels.getD (j.sample column row) 0).rgb) := by
  rw [Job.getElem?_cells hc hr, hj.ofCell_eq hc hr, Region.cell,
    Region.color_pixel]
  rfl

/-- At the size of the source the cells of the regions are those of the pixels. -/
theorem cells_eq (hwidth : j.outputWidth.toNat = j.sourceWidth.toNat)
    (hheight : j.outputHeight.toNat = j.sourceHeight.toNat) (tables : Tables) :
    Region.cells tables j.pixels j.dimensions =
      (j.pixels.take (j.sourceWidth.toNat * j.sourceHeight.toNat)).map fun p =>
        tables.cell p.rgb := by
  have hsize : (Region.cells tables j.pixels j.dimensions).size =
      j.sourceWidth.toNat * j.sourceHeight.toNat := by
    rw [size_cells, cellCount, Grid.area, hwidth, hheight]
  have hpixels := hj.size
  refine Array.ext (by simp [hsize, hpixels]) fun i hi _ => ?_
  rw [hsize] at hi
  -- the cell at position `i` is in column `i % w` and row `i / w`
  have hc := Nat.mod_lt i hj.sourceWidth_pos
  have hr : i / j.sourceWidth.toNat < j.sourceHeight.toNat := Nat.div_lt_of_lt_mul hi
  have hposition : i / j.sourceWidth.toNat * j.sourceWidth.toNat + i % j.sourceWidth.toNat = i := by
    rw [Nat.mul_comm]
    exact Nat.div_add_mod _ _
  have hcell := hj.getElem?_cells (hwidth ▸ hc) (hheight ▸ hr) tables
  rw [hj.sample_of_eq hwidth hheight, hwidth, hposition] at hcell
  obtain ⟨_, hcell⟩ := Array.getElem?_eq_some_iff.1 hcell
  rw [hcell]
  simp [Nat.lt_of_lt_of_le hi hpixels]

theorem isSampledBy_cells {planes : Planes} (hholds : planes.Holds j.levels j.cellCount)
    (tables : Tables) :
    j.IsSampledBy tables planes (Region.cells tables j.pixels j.dimensions) := by
  refine ⟨j.size_cells tables, fun column hc row hr => ?_,
    fun i hi => hj.exists_sample hi, fun hwidth hheight => hj.cells_eq hwidth hheight tables⟩
  obtain ⟨p, hp, hsample⟩ := hj.exists_pixel hc hr
  have hcell := hj.getElem?_cells hc hr tables
  have hlt : row * j.outputWidth.toNat + column < j.cellCount := by
    rw [← j.size_cells tables]
    exact (Array.getElem?_eq_some_iff.1 hcell).1
  refine ⟨p, hp, fun channel => ?_, hsample ▸ hcell⟩
  rw [hholds _ hlt channel, hj.get_levels hc hr, hsample]

end IsEnlarging

end Job

/-! ### Conversions -/

namespace Converter

variable {c : Converter} {j : Job}

/-- **An enlarged frame is sampled.**  After any history, a converter that has room for a grid with
no fewer columns and rows than a frame draws the frame, in either mode, by the tables that the
current charset and exponent give.  The cell in a column and a row is that of the pixel
`⌊row * sourceHeight / outputHeight⌋` rows down and `⌊column * sourceWidth / outputWidth⌋` pixels to
the right, whose levels come through as they are; no pixel is left out, and a grid of the size of
the source has the pixels in order. -/
theorem HasHistory.enlarged_frame (hc : c.HasHistory) (hj : j.IsEnlarging)
    (hroom : j.outputWidth.toNat * j.outputHeight.toNat ≤ c.capacity) (on : Bool) (r : Reading) :
    ∃ tables c', Tables.ofCharset c.settings.charset c.settings.gamma = .ok tables ∧
      (c.setVectorized on).convert j r =
        .ok (.converted (j.outputWidth.toNat * j.outputHeight.toNat), c') ∧
      c'.grid.width = j.outputWidth ∧ c'.grid.height = j.outputHeight ∧
      j.IsSampledBy tables c'.reducer.planes c'.grid.cells := by
  have hcoherent := hc.isCoherent.setVectorized on
  obtain ⟨c', hconvert, hgrid, -, hholds⟩ :=
    hcoherent.convert hroom hj.refusal?_eq_none hj.isModerate r
  refine ⟨c.currentTables, c', hc.isCoherent.tables, hconvert, by rw [hgrid], by rw [hgrid], ?_⟩
  rw [hgrid]
  exact hj.isSampledBy_cells hholds _

/-- Two rows of three pixels as four rows of five cells. -/
def enlargedJob : Job :=
  ⟨#[0xFFFF0000, 0xFF00FF00, 0xFF0000FF, 0xFF102030, 0xFF405060, 0xFF708090], 3, 2, 5, 4⟩

/-- The cell in column 3 and row 2 after another palette and a shutdown, in the scalar mode: it
shows the second pixel of the second row. -/
theorem HasHistory.enlarged_frame_rows : ∃ start c tables c', ofSettings .default = .ok start ∧
    start.afterAll [.setPalette " #" Tables.defaultGamma, .init, .shutdown] = .ok c ∧
    Tables.ofCharset " #" Tables.defaultGamma = .ok tables ∧
    (c.setVectorized false).convert enlargedJob stillReading = .ok (.converted 20, c') ∧
    c'.grid.width = 5 ∧ c'.grid.height = 4 ∧
    c'.grid.cells[13]? = some (tables.cell ⟨0x40, 0x50, 0x60⟩) := by
  obtain ⟨start, c, hstart, hafter, hcharset, hgamma, hcapacity⟩ : ∃ start c,
      ofSettings .default = .ok start ∧
      start.afterAll [.setPalette " #" Tables.defaultGamma, .init, .shutdown] = .ok c ∧
      c.settings.charset = " #" ∧ c.settings.gamma = Tables.defaultGamma ∧ c.capacity = 19200 :=
    ⟨_, _, rfl, rfl, rfl, rfl, rfl⟩
  have hj : enlargedJob.IsEnlarging := ⟨by decide, by decide, by decide, by decide, by decide⟩
  obtain ⟨tables, c', htables, hconvert, hwidth, hheight, hsampled⟩ :=
    HasHistory.enlarged_frame ⟨_, start, _, hstart, hafter⟩ hj (by rw [hcapacity]; decide) false
      stillReading
  obtain ⟨p, hp, -, hcell⟩ := hsampled.cell 3 (by decide) 2 (by decide)
  obtain rfl : 0xFF405060 = p := Option.some.inj hp
  rw [hcharset, hgamma] at htables
  exact ⟨start, c, tables, c', hstart, hafter, htables, hconvert, hwidth, hheight, hcell⟩

end Converter

end GlyphMosaic
