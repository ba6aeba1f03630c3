import GlyphMosaic.Proofs.Converter.Conversions
import GlyphMosaic.Proofs.Reduction.Brightness

/-!
# Brighter frames

A frame that is nowhere darker than another is shown by glyphs that are nowhere sparser, whichever
converters draw the two and in whichever modes.

* `Job.IsDrawn` : what a conversion leaves behind, from the means in the planes to the glyphs of the
  cells.
* `Converter.Draws` : either kind of conversion of a job that has room leaves that behind;
  `Converter.IsCoherent.draws` says that coherent converters do so.
* `Job.IsNoBrighter.levels_le` : brighter pixels have brighter levels.
* `Converter.HasHistory.brighter_frame` : **a brighter frame has no sparser glyph**, and none of its
  levels was ever cut.
-/

namespace GlyphMosaic

/-! ### Drawn jobs -/

namespace Job

/-- A job was drawn: the means of its regions, bytes that neither pass cut, are in the planes, and
each cell has the glyph of the palette at the position of their luminance. -/
structure IsDrawn (j : Job) (palette : Palette) (planes : Planes) (cells : Array Cell) : Prop where
  /-- The levels of the job are in the planes. -/
  holds : planes.Holds j.levels j.cellCount
  /-- They are the means, as the first pass computes them before it cuts them. -/
  mean : ∀ i < j.cellCount, ∀ channel, ((j.levels i).get channel).toNat =
    (j.dimensions.regionAt i).mean j.pixels j.sourceWidth.toNat channel
  /-- They are bytes. -/
  byte : ∀ i < j.cellCount, ∀ channel, ((j.levels i).get channel).toNat ≤ 255
  /-- The second pass does not cut them either. -/
  uncut : planes.IsUncut j.levels j.cellCount
  /-- Their luminance chooses the glyph. -/
  glyph : ∀ i < j.cellCount, ∃ cell, cells[i]? = some cell ∧
    cell.glyph = palette.glyph (Palette.rank palette.size (j.levels i).luminance)

/-- The two jobs have the same dimensions, and no pixel of the second is darker in any channel. -/
structure IsNoBrighter (j j' : Job) : Prop where
  sourceWidth : j'.sourceWidth = j.sourceWidth
  sourceHeight : j'.sourceHeight = j.sourceHeight
  outputWidth : j'.outputWidth = j.outputWidth
  outputHeight : j'.outputHeight = j.outputHeight
  /-- Pixel by pixel, as far as the dimensions call for them. -/
  level_le : ∀ i < j.sourceWidth.toNat * j.sourceHeight.toNat, ∀ channel,
    Region.levelAt j.pixels channel i ≤ Region.levelAt j'.pixels channel i

variable {j j' : Job}

theorem count_regionAt_pos (h : j.refusal? = none) (hj : j.IsModerate) {i : Nat}
    (hi : i < j.cellCount) : 0 < (j.dimensions.regionAt i).count :=
  (isModerate_dimensions h hj).hasExtent.count_regionAt_pos (by rwa [cellCount_dimensions])

theorem toNat_get_levels (h : j.refusal? = none) (hj : j.IsModerate) {i : Nat}
    (hi : i < j.cellCount) (channel : Channel) :
    ((j.levels i).get channel).toNat =
      (j.dimensions.regionAt i).mean j.pixels j.sourceWidth.toNat channel := by
  rw [levels, Region.get_levels]
  exact toNat_planeLevel (Region.mean_le _ _ _ (count_regionAt_pos h hj hi))

theorem toNat_get_levels_le (h : j.refusal? = none) (hj : j.IsModerate) {i : Nat}
    (hi : i < j.cellCount) (channel : Channel) : ((j.levels i).get channel).toNat ≤ 255 := by
  rw [toNat_get_levels h hj hi]
  exact Region.mean_le _ _ _ (count_regionAt_pos h hj hi)

theorem luminance_levels (h : j.refusal? = none) (hj : j.IsModerate) {i : Nat}
    (hi : i < j.cellCount) :
    (j.levels i).luminance =
      ((j.dimensions.regionAt i).color j.pixels j.sourceWidth.toNat).luminance :=
  congrArg Rgb.luminance (Region.clampToByte_levels (count_regionAt_pos h hj hi) _ _)

theorem isDrawn_cells (h : j.refusal? = none) (hj : j.IsModerate) (tables : Tables)
    (rest : Array Cell) {planes : Planes} (hholds : planes.Holds j.levels j.cellCount) :
    j.IsDrawn tables.palette planes (Region.cells tables j.pixels j.dimensions ++ rest) := by
  have hbyte := fun i (hi : i < j.cellCount) => toNat_get_levels_le h hj hi
  refine ⟨hholds, fun i hi => toNat_get_levels h hj hi, hbyte, hholds.isUncut hbyte, fun i hi =>
    ⟨(j.dimensions.regionAt i).cell tables j.pixels j.sourceWidth.toNat, ?_, ?_⟩⟩
  · have hsize := j.size_cells tables
    rw [Array.getElem?_append_left (by omega), Region.cells_eq]
    exact getElem?_firstValues _ (by rwa [cellCount_dimensions])
  · rw [luminance_levels h hj hi]
    rfl

/-! ### Brighter jobs -/

namespace IsNoBrighter

variable (hjj : j.IsNoBrighter j')

include hjj

theorem dimensions_eq : j'.dimensions = j.dimensions := by
  rw [dimensions, hjj.sourceWidth, hjj.sourceHeight, hjj.outputWidth, hjj.outputHeight, dimensions]

theorem cellCount_eq : j'.cellCount = j.cellCount := by
  rw [cellCount, hjj.outputWidth, hjj.outputHeight, cellCount]

/-- **Brighter pixels have brighter levels.** -/
theorem levels_le (h : j.refusal? = none) (hj : j.IsModerate) (h' : j'.refusal? = none)
    (hj' : j'.IsModerate) {i : Nat} (hi : i < j.cellCount) (channel : Channel) :
    (j.levels i).get channel ≤ (j'.levels i).get channel := by
  rw [UInt16.le_iff_toNat_le, toNat_get_levels h hj hi,
    toNat_get_levels h' hj' (by rwa [hjj.cellCount_eq]), hjj.dimensions_eq, hjj.sourceWidth]
  refine Region.mean_mono _ fun k hk => hjj.level_le k ?_ channel
  exact Region.lt_of_mem_positions axisSpan_stop_le axisSpan_stop_le hk

end IsNoBrighter

end Job

/-! ### Conversions -/

namespace Converter

/-- Where there is room for a job, in the own grid or in a caller's cells, it is drawn there. -/
structure Draws (c : Converter) (j : Job) (palette : Palette) : Prop where
  /-- In the own grid. -/
  own : ∀ r, j.cellCount ≤ c.capacity → ∃ c', c.convert j r = .ok (.converted j.cellCount, c') ∧
    j.IsDrawn palette c'.reducer.planes c'.grid.cells
  /-- In a caller's cells. -/
  caller : ∀ r out, j.cellCount ≤ out.size →
    ∃ out' c', c.convertInto j out r = .ok (.converted j.cellCount, out', c') ∧
      j.IsDrawn palette c'.reducer.planes out'

variable {c c' : Converter} {j j' : Job}

/-- A coherent converter draws every job that is not refused. -/
theorem IsCoherent.draws (hc : c.IsCoherent) (h : j.refusal? = none) (hj : j.IsModerate) :
    c.Draws j c.currentTables.palette := by
  refine ⟨fun r hroom => ?_, fun r out hroom => ?_⟩
  · obtain ⟨d, hconvert, hgrid, -, hholds⟩ := hc.convert hroom h hj r
    refine ⟨d, hconvert, ?_⟩
    rw [hgrid]
    simpa using Job.isDrawn_cells h hj c.currentTables #[] hholds
  · obtain ⟨d, hconvert, -, -, hholds⟩ := hc.convertInto h hroom hj r
    exact ⟨_, d, hconvert, Job.isDrawn_cells h hj c.currentTables _ hholds⟩

/-- **A brighter frame has no sparser glyph.**  Two converters that any histories lead to, with the
same charset and in any modes, draw two frames of the same dimensions, of fewer than `2 ^ 32`
pixels, wherever there is room.  If no pixel of the first is brighter in any channel, then neither
is a level of any cell, nor its luminance, nor is the glyph further on in the palette. -/
theorem HasHistory.brighter_frame (hc : c.HasHistory) (hc' : c'.HasHistory)
    (hcharset : c'.settings.charset = c.settings.charset) (hjj : j.IsNoBrighter j')
    (h : j.refusal? = none) (h' : j'.refusal? = none)
    (hlt : j.sourceWidth.toNat * j.sourceHeight.toNat < 2 ^ 32) :
    ∃ palette, Palette.ofString c.settings.charset = .ok palette ∧ c.Draws j palette ∧
      c'.Draws j' palette ∧ ∀ i < j.cellCount,
        (∀ channel, (j.levels i).get channel ≤ (j'.levels i).get channel) ∧
        (j.levels i).luminance ≤ (j'.levels i).luminance ∧
        Palette.rank palette.size (j.levels i).luminance ≤
          Palette.rank palette.size (j'.levels i).luminance ∧
        Palette.rank palette.size (j'.levels i).luminance < palette.size := by
  have hj := Job.isModerate_of_lt hlt
  have hj' : j'.IsModerate := Job.isModerate_of_lt (by rwa [hjj.sourceWidth, hjj.sourceHeight])
  have hpalette := (Tables.ofCharset_eq_ok.1 hc.isCoherent.tables).1
  have hpalette' := (Tables.ofCharset_eq_ok.1 hc'.isCoherent.tables).1
  rw [hcharset, hpalette] at hpalette'
  have hsame := Except.ok.inj hpalette'
  refine ⟨c.currentTables.palette, hpalette, hc.isCoherent.draws h hj,
    hsame ▸ hc'.isCoherent.draws h' hj', fun i hi => ?_⟩
  have hlevels := hjj.levels_le h hj h' hj' hi
  have hluminance := Channels.luminance_mono hlevels
  exact ⟨hlevels, hluminance, Palette.rank_mono _ hluminance, Palette.rank_lt_size _ _⟩

/-- Two gray pixels over two black ones, as one cell. -/
def dimJob : Job := ⟨#[0xFF404040, 0xFF808080, 0, 0], 2, 2, 1, 1⟩

/-- The same with gray below. -/
def brightJob : Job := ⟨#[0x00404040, 0x00818080, 0x7F7F7F, 0x7F7F7F], 2, 2, 1, 1⟩

/-- The dim job by a new converter in lanes, and the bright one by a converter that had another
palette meanwhile and is in the scalar mode. -/
theorem HasHistory.brighter_frame_dim : ∃ c c' d d' cell cell', ofSettings .default = .ok c ∧
    c.afterAll [.setPalette " #" Tables.defaultGamma, .init,
      .setPalette Palette.compact Tables.defaultGamma, .setVectorized false] = .ok c' ∧
    c.mode = .vectorized ∧ c'.mode = .scalar ∧
    c.convert dimJob stillReading = .ok (.converted 1, d) ∧
    c'.convert brightJob stillReading = .ok (.converted 1, d') ∧
    d.reducer.planes.r[0]? = some 48 ∧ d'.reducer.planes.r[0]? = some 111 ∧
    d.grid.cells[0]? = some cell ∧ d'.grid.cells[0]? = some cell' ∧
    cell.glyph = ':' ∧ cell'.glyph = '=' := by
  obtain ⟨c, c', hstart, hafter, hcharset, hcharset', hmode, hmode', hcapacity, hcapacity'⟩ :
      ∃ c c', ofSettings .default = .ok c ∧
      c.afterAll [.setPalette " #" Tables.defaultGamma, .init,
        .setPalette Palette.compact Tables.defaultGamma, .setVectorized false] = .ok c' ∧
      c.settings.charset = Palette.compact ∧ c'.settings.charset = c.settings.charset ∧
      c.mode = .vectorized ∧ c'.mode = .scalar ∧ c.capacity = 19200 ∧ c'.capacity = 19200 :=
    ⟨_, _, rfl, rfl, rfl, rfl, rfl, rfl, rfl, rfl⟩
  have hc : c.HasHistory := ⟨_, c, [], hstart, rfl⟩
  have hc' : c'.HasHistory := ⟨_, c, _, hstart, hafter⟩
  have hjj : dimJob.IsNoBrighter brightJob :=
    ⟨rfl, rfl, rfl, rfl, fun i hi channel => by revert i; cases channel <;> decide⟩
  obtain ⟨palette, hpalette, hdraws, hdraws', -⟩ :=
    HasHistory.brighter_frame hc hc' hcharset' hjj rfl rfl (by decide)
  rw [hcharset] at hpalette
  obtain rfl : Palette.default = palette := Except.ok.inj hpalette
  obtain ⟨d, hconvert, hdrawn⟩ := hdraws.own stillReading (by rw [hcapacity]; decide)
  obtain ⟨d', hconvert', hdrawn'⟩ := hdraws'.own stillReading (by rw [hcapacity']; decide)
  obtain ⟨cell, hcell, hglyph⟩ := hdrawn.glyph 0 (by decide)
  obtain ⟨cell', hcell', hglyph'⟩ := hdrawn'.glyph 0 (by decide)
  refine ⟨c, c', d, d', cell, cell', hstart, hafter, hmode, hmode', hconvert, hconvert',
    (hdrawn.holds 0 (by decide) .red).trans ?_, (hdrawn'.holds 0 (by decide) .red).trans ?_, hcell,
    hcell', hglyph.trans ?_, hglyph'.trans ?_⟩ <;> decide

end Converter

end GlyphMosaic
