import GlyphMosaic.Proofs.Converter.Conversions
import GlyphMosaic.Proofs.Reduction.Uniform
import GlyphMosaic.Proofs.Tone.Glyphs

/-!
# White frames

The cells of a white frame are not all white: the mean of a region of `n` white pixels loses what
the rounded reciprocal of `n` cuts off, up to half of it, and the compact palette shows its densest
glyph from the level 248 on only.

* `Palette.glyphFor_luminance` : the glyph of a level of gray in the compact palette.
* `Job.ShowsWhite` : cells show `@` exactly where the count of the region keeps a white level at
  248.
* `Converter.HasHistory.white_frame` : **a converter with the compact palette draws a white frame
  so**, in either mode and whatever came before it.
* `Converter.white_row_darkens` : a row of 1821 white pixels is shown as `%`.
-/

namespace GlyphMosaic

/-- A white pixel. -/
def whitePixel : Pixel := 0xFFFFFFFF

theorem level_whitePixel (channel : Channel) : (whitePixel.level channel).toNat = 255 := by
  cases channel <;> rfl

/-! ### Gray levels in the compact palette -/

namespace Palette

variable {p : Palette}

theorem glyphFor_luminance (hp : p.glyphs = compact.toList.toArray) {v : Nat} (hv : v ≤ 255) :
    p.glyphFor (luminance v v v) =
      compact.toList.toArray.getD ((1000 * v / 1024 * 9 + 127) / 256) ' ' := by
  have hsize : p.size = 10 := by rw [size, hp]; rfl
  have hrank : rank 10 (luminance v v v) = (1000 * v / 1024 * 9 + 127) / 256 := by
    rw [rank, toNat_luminance_gray hv]
    change min ((1000 * v / 1024 * 9 + 127) / 256) 9 = _
    omega
  have hlast : compact.toList.toArray.size - 1 = 9 := rfl
  rw [glyphFor, hsize, hrank, glyph_eq_getD, hp, hlast, Nat.min_eq_left (by omega)]

/-- The glyph of the compact palette for the mean of `n` white pixels. -/
def whiteGlyph (n : Nat) : Char :=
  compact.toList.toArray.getD ((1000 * uniformMean n 255 / 1024 * 9 + 127) / 256) ' '

theorem whiteGlyph_eq_densest_iff {n : Nat} :
    whiteGlyph n = '@' ↔ 65536 < n ∨ 65536 % n ≤ 1799 := by
  have hle := uniformMean_le n 255
  -- the densest glyph is the tenth, for a luminance of 242 and more
  have htenth : ∀ i < 10, compact.toList.toArray.getD i ' ' = '@' ↔ i = 9 := by decide
  have hkept : 255 - 7 ≤ uniformMean n 255 ↔ 65536 < n ∨ 255 * (65536 % n) ≤ 7 * 65536 :=
    uniformMean_ge_iff (by decide)
  rw [whiteGlyph, htenth _ (by omega)]
  omega

end Palette

/-! ### White jobs -/

theorem mod_le_of_le {n : Nat} (hn : n ≤ 1820) (hpos : 0 < n) : 65536 % n ≤ 1799 := by
  by_cases h : n ≤ 1800
  · have := Nat.mod_lt 65536 hpos
    omega
  · -- from 1801 to 1820 the quotient is 36
    have hquotient : 65536 / n = 36 := Nat.div_eq_of_lt_le (by omega) (by omega)
    have := Nat.div_add_mod 65536 n
    rw [hquotient] at this
    omega

namespace Job

variable {j : Job}

/-- A white frame with an extent, of fewer than `2 ^ 32` pixels, is to be converted to a grid with
an extent. -/
structure IsWhite (j : Job) : Prop where
  /-- All pixels are white. -/
  white : ∀ p ∈ j.pixels, p = whitePixel
  /-- There are as many as the dimensions call for. -/
  size : j.sourceWidth.toNat * j.sourceHeight.toNat ≤ j.pixels.size
  /-- They fit 32 bits. -/
  small : j.sourceWidth.toNat * j.sourceHeight.toNat < 2 ^ 32
  sourceWidth_pos : 0 < j.sourceWidth.toNat
  sourceHeight_pos : 0 < j.sourceHeight.toNat
  outputWidth_pos : 0 < j.outputWidth.toNat
  outputHeight_pos : 0 < j.outputHeight.toNat

/-- Cells show a white frame: the glyph of a cell is `@` exactly where its region has more than
65536 pixels or a number of them that leaves at most 1799 of 65536, which all numbers up to 1820
do. -/
def ShowsWhite (j : Job) (cells : Array Cell) : Prop :=
  ∀ column < j.outputWidth.toNat, ∀ row < j.outputHeight.toNat, ∃ cell,
    cells[row * j.outputWidth.toNat + column]? = some cell ∧
    (cell.glyph = '@' ↔ 65536 < (Region.ofCell j.dimensions column row).count ∨
      65536 % (Region.ofCell j.dimensions column row).count ≤ 1799) ∧
    ((Region.ofCell j.dimensions column row).count ≤ 1820 → cell.glyph = '@')

theorem IsWhite.pixels_eq (hj : j.IsWhite) : j.pixels = Array.replicate j.pixels.size whitePixel :=
  Array.eq_replicate_iff.2 ⟨rfl, hj.white⟩

theorem IsWhite.refusal?_eq_none (hj : j.IsWhite) : j.refusal? = none :=
  refusal?_eq_none_of_pos hj.sourceWidth_pos hj.sourceHeight_pos hj.outputWidth_pos
    hj.outputHeight_pos hj.size

theorem IsWhite.count_pos (hj : j.IsWhite) {column row : Nat} (hc : column < j.outputWidth.toNat)
    (hr : row < j.outputHeight.toNat) : 0 < (Region.ofCell j.dimensions column row).count :=
  Region.count_ofCell_pos hj.sourceWidth_pos hj.sourceHeight_pos (j.outputWidth_dimensions ▸ hc)
    (j.outputHeight_dimensions ▸ hr)

theorem IsWhite.color_eq (hj : j.IsWhite) {column row : Nat} (hc : column < j.outputWidth.toNat)
    (hr : row < j.outputHeight.toNat) :
    (Region.ofCell j.dimensions column row).color j.pixels j.sourceWidth.toNat =
      let v := (uniformMean (Region.ofCell j.dimensions column row).count 255).toUInt8
      ⟨v, v, v⟩ := by
  have hmean : ∀ channel, (Region.ofCell j.dimensions column row).mean j.pixels j.sourceWidth.toNat
      channel = uniformMean (Region.ofCell j.dimensions column row).count 255 := by
    intro channel
    rw [hj.pixels_eq, ← level_whitePixel channel]
    exact Region.mean_replicate _ whitePixel channel (hj.count_pos hc hr) axisSpan_stop_le
      axisSpan_stop_le hj.size
  simp only [Region.color, hmean]

/-- The glyph that shows a region of a white frame in the compact palette. -/
theorem IsWhite.glyph_cell (hj : j.IsWhite) {tables : Tables}
    (hp : tables.palette.glyphs = Palette.compact.toList.toArray) {column row : Nat}
    (hc : column < j.outputWidth.toNat) (hr : row < j.outputHeight.toNat) :
    ((Region.ofCell j.dimensions column row).cell tables j.pixels j.sourceWidth.toNat).glyph =
      Palette.whiteGlyph (Region.ofCell j.dimensions column row).count := by
  have hle := uniformMean_le (Region.ofCell j.dimensions column row).count 255
  have hbyte : (uniformMean (Region.ofCell j.dimensions column row).count 255).toUInt8.toNat =
      uniformMean (Region.ofCell j.dimensions column row).count 255 :=
    UInt8.toNat_ofNat_of_lt' (by simp [UInt8.size]; omega)
  rw [Palette.whiteGlyph, ← Palette.glyphFor_luminance hp hle, Region.cell, hj.color_eq hc hr]
  change tables.palette.glyphFor (luminance _ _ _) = _
  rw [hbyte]

theorem IsWhite.exists_cell (hj : j.IsWhite) {tables : Tables}
    (hp : tables.palette.glyphs = Palette.compact.toList.toArray) {column row : Nat}
    (hc : column < j.outputWidth.toNat) (hr : row < j.outputHeight.toNat) :
    ∃ cell,
      (Region.cells tables j.pixels j.dimensions)[row * j.outputWidth.toNat + column]? =
        some cell ∧
      cell.glyph = Palette.whiteGlyph (Region.ofCell j.dimensions column row).count :=
  ⟨_, getElem?_cells hc hr tables, hj.glyph_cell hp hc hr⟩

/-- The cells of the regions of a white frame show it, with the compact palette. -/
theorem IsWhite.showsWhite_cells (hj : j.IsWhite) {tables : Tables}
    (hp : tables.palette.glyphs = Palette.compact.toList.toArray) (rest : Array Cell) :
    j.ShowsWhite (Region.cells tables j.pixels j.dimensions ++ rest) := by
  intro column hc row hr
  obtain ⟨cell, hcell, hglyph⟩ := hj.exists_cell hp hc hr
  have hcount := hj.count_pos hc hr
  have hthere : (Region.cells tables j.pixels j.dimensions ++ rest)[
      row * j.outputWidth.toNat + column]? = some cell := by
    rw [Array.getElem?_append_left (Array.getElem?_eq_some_iff.1 hcell).1, hcell]
  refine ⟨cell, hthere, ?_, fun hle => ?_⟩
  · rw [hglyph, Palette.whiteGlyph_eq_densest_iff]
  · rw [hglyph, Palette.whiteGlyph_eq_densest_iff]
    exact .inr (mod_le_of_le hle hcount)

end Job

/-! ### Conversions -/

namespace Converter

variable {c : Converter} {j : Job}

theorem IsCoherent.glyphs_eq (hc : c.IsCoherent) :
    c.currentTables.palette.glyphs = c.settings.charset.toList.toArray :=
  Palette.glyphs_of_ofString (Tables.ofCharset_eq_ok.1 hc.tables).1

/-- **The densest glyph for white, as far as the means keep it.**  After any history, a converter
with the compact palette and any exponent converts a white frame, in either mode, for its own grid
as far as it has room and for a caller's cells.  A cell shows `@` exactly if its region has more
than 65536 pixels or a number of them that leaves at most 1799 of 65536. -/
theorem HasHistory.white_frame (hc : c.HasHistory) (hcharset : c.settings.charset = Palette.compact)
    (hj : j.IsWhite) (on : Bool) (r : Reading) :
    (j.outputWidth.toNat * j.outputHeight.toNat ≤ c.capacity →
      ∃ c', (c.setVectorized on).convert j r =
          .ok (.converted (j.outputWidth.toNat * j.outputHeight.toNat), c') ∧
        j.ShowsWhite c'.grid.cells) ∧
    ∀ out : Array Cell, j.outputWidth.toNat * j.outputHeight.toNat ≤ out.size →
      ∃ out' c', (c.setVectorized on).convertInto j out r =
          .ok (.converted (j.outputWidth.toNat * j.outputHeight.toNat), out', c') ∧
        j.ShowsWhite out' := by
  have hcoherent := hc.isCoherent.setVectorized on
  have hmoderate := Job.isModerate_of_lt hj.small
  have hglyphs : (c.setVectorized on).currentTables.palette.glyphs =
      Palette.compact.toList.toArray := by
    rw [hcoherent.glyphs_eq, ← hcharset]
    rfl
  refine ⟨fun hroom => ?_, fun out hroom => ?_⟩
  · obtain ⟨c', hconvert, hgrid, -⟩ := hcoherent.convert hroom hj.refusal?_eq_none hmoderate r
    refine ⟨c', hconvert, ?_⟩
    rw [hgrid]
    simpa using hj.showsWhite_cells hglyphs #[]
  · obtain ⟨c', hconvert, -, -⟩ := hcoherent.convertInto hj.refusal?_eq_none hroom hmoderate r
    exact ⟨_, c', hconvert, hj.showsWhite_cells hglyphs _⟩

/-- A row of white pixels as one cell. -/
def whiteRow (width : UInt32) : Job := ⟨Array.replicate width.toNat whitePixel, width, 1, 1, 1⟩

theorem isWhite_whiteRow {width : UInt32} (hpos : 0 < width.toNat) : (whiteRow width).IsWhite := by
  have hsize : (whiteRow width).pixels.size = width.toNat := Array.size_replicate
  have hlt := width.toNat_lt
  refine ⟨fun p hp => (Array.mem_replicate.1 hp).2, ?_, ?_, hpos, Nat.one_pos, Nat.one_pos,
    Nat.one_pos⟩
  · rw [hsize]
    exact Nat.le_of_eq (Nat.mul_one _)
  · exact (Nat.mul_one _).trans_lt hlt

/-- A row of 2048 white pixels after another palette and in the scalar mode; the remainder is
zero. -/
theorem HasHistory.white_frame_row : ∃ start c c' cell, ofSettings .default = .ok start ∧
    start.afterAll [.setPalette " #" Tables.defaultGamma, .init,
      .setPalette Palette.compact Tables.defaultGamma] = .ok c ∧
    (c.setVectorized false).convert (whiteRow 2048) stillReading = .ok (.converted 1, c') ∧
    c'.grid.cells[0]? = some cell ∧ cell.glyph = '@' := by
  obtain ⟨start, c, hstart, hafter, hcharset, hcapacity⟩ :
      ∃ start c, ofSettings .default = .ok start ∧
      start.afterAll [.setPalette " #" Tables.defaultGamma, .init,
        .setPalette Palette.compact Tables.defaultGamma] = .ok c ∧
      c.settings.charset = Palette.compact ∧ c.capacity = 19200 := ⟨_, _, rfl, rfl, rfl, rfl⟩
  have hc : c.HasHistory := ⟨_, start, _, hstart, hafter⟩
  obtain ⟨c', hconvert, hshows⟩ := (HasHistory.white_frame hc hcharset
    (isWhite_whiteRow (by decide : 0 < (2048 : UInt32).toNat)) false stillReading).1
      (by rw [hcapacity]; decide)
  obtain ⟨cell, hcell, hglyph, -⟩ := hshows 0 (by decide) 0 (by decide)
  exact ⟨start, c, c', cell, hstart, hafter, hconvert, hcell, hglyph.2 (by decide)⟩

/-- A row of 1821 white pixels, of which 1801 of 65536 are left, comes out with the level 247 and
not with the densest glyph. -/
theorem white_row_darkens : ∃ c c' cell, ofSettings .default = .ok c ∧
    c.convert (whiteRow 1821) stillReading = .ok (.converted 1, c') ∧
    c'.grid.cells[0]? = some cell ∧ cell.glyph = '%' := by
  obtain ⟨c, hstart, hcharset, hcapacity⟩ : ∃ c, ofSettings .default = .ok c ∧
      c.settings.charset = Palette.compact ∧ c.capacity = 19200 := ⟨_, rfl, rfl, rfl⟩
  have hj := isWhite_whiteRow (by decide : 0 < (1821 : UInt32).toNat)
  have hcoherent := isCoherent_ofSettings hstart
  obtain ⟨c', hconvert, hgrid, -⟩ :=
    hcoherent.convert (by rw [hcapacity]; decide) hj.refusal?_eq_none
      (Job.isModerate_of_lt hj.small) stillReading
  obtain ⟨cell, hcell, hglyph⟩ := hj.exists_cell (hcharset ▸ hcoherent.glyphs_eq)
    (by decide : 0 < (whiteRow 1821).outputWidth.toNat)
    (by decide : 0 < (whiteRow 1821).outputHeight.toNat)
  have hcells : c'.grid.cells =
      Region.cells c.currentTables (whiteRow 1821).pixels (whiteRow 1821).dimensions := by
    rw [hgrid]
  have hcount : (Region.ofCell (whiteRow 1821).dimensions 0 0).count = 1821 := by decide
  rw [hcount] at hglyph
  exact ⟨c, c', cell, hstart, hconvert, by rw [hcells]; exact hcell, hglyph⟩

end Converter

end GlyphMosaic
