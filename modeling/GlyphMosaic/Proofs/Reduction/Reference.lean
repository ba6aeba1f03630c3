import GlyphMosaic.Proofs.Reduction.SecondPass
import GlyphMosaic.Proofs.SummedArea.Rectangles
import GlyphMosaic.Proofs.Tiling.Regions

/-!
# A reduced frame shows its regions

The cells that a reducer draws are those of `Region.cells`, whatever it was used for before.

* `Region.sum_eq` : the sum over the pixels of a region, as a list and as a double sum.
* `Region.IsShownBy` : a cell shows a region, spelled out down to the pixels.
* `cellAverages_eq` : the first pass gives the means of the regions.
* `Planes.Holds` : the first entries of the planes are given levels; `Planes.IsUniform.overwrite`
  writes them, and `Planes.Holds.planeCells_eq` reads them.
* `Reducer.IsCoherent` : what earlier frames may leave behind; `isCoherent_empty` and
  `IsCoherent.reduce` say that nothing else is ever left behind.
* `Reducer.IsCoherent.reduce` : **a coherent reducer draws the cells of the regions**, in either
  mode.
-/

namespace GlyphMosaic

open SumTable

/-! ### Regions -/

namespace Region

variable (r : Region) (pixels : Array Pixel) (width : Nat) (channel : Channel)

theorem sum_eq_sum_map : r.sum pixels width channel =
    ((r.positions width).map (levelAt pixels channel)).sum := by
  rw [List.sum_eq_foldl, List.foldl_map]
  rfl

theorem sum_eq : r.sum pixels width channel =
    levelSum (levelAt pixels channel) width r.columns.start r.columns.stop r.rows.start
      r.rows.stop := by
  rw [sum_eq_sum_map, positions, List.map_flatMap, List.flatMap, List.sum_flatten, List.map_map]
  simp only [List.map_map]
  rfl

theorem length_positions : (r.positions width).length = r.count := by
  unfold positions
  rw [List.length_flatMap]
  simp [count, Nat.mul_comm]

theorem sum_le : r.sum pixels width channel ≤ 255 * r.count := by
  rw [sum_eq]
  exact levelSum_le (SummedArea.levelAt_le pixels channel) _ _ _ _

theorem mean_le {r : Region} (hr : 0 < r.count) : r.mean pixels width channel ≤ 255 :=
  fixedMean_le hr (r.sum_le pixels width channel)

theorem lt_of_mem_positions {r : Region} {width height i : Nat} (hcolumns : r.columns.stop ≤ width)
    (hrows : r.rows.stop ≤ height) (hi : i ∈ r.positions width) : i < width * height := by
  simp only [positions, List.mem_flatMap, List.mem_map, List.mem_range'_1, Span.length] at hi
  obtain ⟨y, hy, x, hx, rfl⟩ := hi
  rw [Nat.mul_comm width]
  exact rowMajor_lt (by omega) (by omega)

/-- The means of a region as the entries of the planes. -/
def levels : Channels UInt16 :=
  ⟨planeLevel (r.mean pixels width .red), planeLevel (r.mean pixels width .green),
    planeLevel (r.mean pixels width .blue)⟩

@[simp] theorem get_levels :
    (r.levels pixels width).get channel = planeLevel (r.mean pixels width channel) := by
  cases channel <;> rfl

/-- A cell shows a region of a frame: its colour has, in each channel, the mean of the levels of the
region's pixels as a byte, and glyph and displayed colour are those of the tables. -/
structure IsShownBy (tables : Tables) (height : Nat) (cell : Cell) : Prop where
  /-- The region has pixels. -/
  count_pos : 0 < r.count
  /-- So many. -/
  length : (r.positions width).length = r.count
  /-- They are pixels of the frame. -/
  inside : ∀ i ∈ r.positions width, i < width * height ∧ i < pixels.size
  /-- The mean is a multiplication for up to 65536 pixels and a division above. -/
  mean : ∀ channel, r.mean pixels width channel =
    if r.count ≤ 65536 then r.sum pixels width channel * (65536 / r.count) / 2 ^ 16
    else r.sum pixels width channel / r.count
  /-- It is a level. -/
  mean_le : ∀ channel, r.mean pixels width channel ≤ 255
  /-- The cell is that of the mean colour. -/
  cell : cell = tables.cell ⟨(r.mean pixels width .red).toUInt8,
    (r.mean pixels width .green).toUInt8, (r.mean pixels width .blue).toUInt8⟩

end Region

theorem toNat_planeLevel {mean : Nat} (h : mean ≤ 255) : (planeLevel mean).toNat = mean := by
  rw [planeLevel, Nat.min_eq_left (by omega)]
  exact UInt16.toNat_ofNat_of_lt' (by simp [UInt16.size]; omega)

theorem clampToByte_planeLevel {mean : Nat} (h : mean ≤ 255) :
    clampToByte (planeLevel mean) = mean.toUInt8 := by
  apply UInt8.toNat_inj.1
  rw [toNat_clampToByte, toNat_planeLevel h, Nat.min_eq_left h]
  exact (UInt8.toNat_ofNat_of_lt' (by simp [UInt8.size]; omega)).symm

namespace Region

/-- The levels of a region cut down to bytes are its colour. -/
theorem clampToByte_levels {r : Region} (hr : 0 < r.count) (pixels : Array Pixel) (width : Nat) :
    (⟨clampToByte (r.levels pixels width).r, clampToByte (r.levels pixels width).g,
      clampToByte (r.levels pixels width).b⟩ : Rgb) = r.color pixels width := by
  have hmean := fun channel => mean_le pixels width channel hr
  simp only [levels, color]
  rw [clampToByte_planeLevel (hmean .red), clampToByte_planeLevel (hmean .green),
    clampToByte_planeLevel (hmean .blue)]

variable {d : Dimensions} {column row : Nat} {pixels : Array Pixel}

theorem isShownBy_cell (hd : d.IsModerate) (hc : column < d.outputWidth.toNat)
    (hr : row < d.outputHeight.toNat)
    (hp : d.sourceWidth.toNat * d.sourceHeight.toNat ≤ pixels.size) (tables : Tables) :
    (ofCell d column row).IsShownBy pixels d.sourceWidth.toNat tables d.sourceHeight.toNat
      ((ofCell d column row).cell tables pixels d.sourceWidth.toNat) := by
  have hpos := count_ofCell_pos hd.sourceWidth_pos hd.sourceHeight_pos hc hr
  refine ⟨hpos, length_positions _ _, fun i hi => ?_, fun channel => fixedMean_eq hpos _,
    fun channel => mean_le pixels _ channel hpos, rfl⟩
  have hlt := lt_of_mem_positions axisSpan_stop_le axisSpan_stop_le hi
  exact ⟨hlt, Nat.lt_of_lt_of_le hlt hp⟩

theorem cells_eq (tables : Tables) (pixels : Array Pixel) (d : Dimensions) :
    cells tables pixels d =
      firstValues (fun i => (d.regionAt i).cell tables pixels d.sourceWidth.toNat) d.cellCount :=
  flatMap_rows (fun row column => (ofCell d column row).cell tables pixels d.sourceWidth.toNat) _ _

@[simp] theorem size_cells (tables : Tables) (pixels : Array Pixel) (d : Dimensions) :
    (cells tables pixels d).size = d.cellCount := by
  rw [cells_eq, size_firstValues]

theorem getElem?_cells (tables : Tables) (pixels : Array Pixel)
    (hc : column < d.outputWidth.toNat) (hr : row < d.outputHeight.toNat) :
    (cells tables pixels d)[row * d.outputWidth.toNat + column]? =
      some ((ofCell d column row).cell tables pixels d.sourceWidth.toNat) := by
  rw [cells_eq, getElem?_firstValues _ (Dimensions.position_lt hc hr),
    Dimensions.regionAt_position row hc]

end Region

/-! ### The first pass -/

section Averages

variable {d : Dimensions} (a : SummedArea) (pixels : Array Pixel)

theorem cellAverage_eq (hd : d.IsModerate) {column row : Nat} (hc : column < d.outputWidth.toNat)
    (hr : row < d.outputHeight.toNat) :
    cellAverage (a.rewritten pixels d.sourceWidth.toNat d.sourceHeight.toNat) (.exact d)
        (Region.ofCell d column row).rows (row * d.outputWidth.toNat + column)
        (Region.ofCell d column row).columns =
      .ok ((Region.ofCell d column row).levels pixels d.sourceWidth.toNat) := by
  have hi := Dimensions.position_lt hc hr
  have hregion := Dimensions.regionAt_position row hc
  have hx₀ := axisSpan_start_lt_stop hd.sourceWidth_pos hc
  have hy₀ := axisSpan_start_lt_stop hd.sourceHeight_pos hr
  have hfit : 2 * (255 * (d.sourceWidth.toNat * d.sourceHeight.toNat)) < 2 ^ 64 := by
    have := hd.source_lt
    omega
  -- nothing more is needed of the spans
  generalize hr : Region.ofCell d column row = r at hregion ⊢
  have hrect :
      (a.rewritten pixels d.sourceWidth.toNat d.sourceHeight.toNat).rectangle
          r.columns.start r.columns.stop r.rows.start r.rows.stop =
        .ok (SummedArea.sums pixels d.sourceWidth.toNat
          r.columns.start r.columns.stop r.rows.start r.rows.stop) := by
    subst hr
    exact SummedArea.rectangle_rewritten (Nat.pos_iff_ne_zero.1 hd.sourceWidth_pos) hfit
      (Nat.le_of_lt hx₀) axisSpan_stop_le (Nat.le_of_lt hy₀) axisSpan_stop_le
  rw [cellAverage, RegionMap.isDegenerate_exact hd.hasExtent hi, ok_bind, if_neg Bool.false_ne_true,
    hrect, ok_bind]
  refine Channels.tabulate_eq_ok.2 fun channel => ?_
  have hsum : r.sum pixels d.sourceWidth.toNat channel ≤
      255 * (d.regionAt (row * d.outputWidth.toNat + column)).count := by
    rw [hregion]
    exact r.sum_le pixels _ channel
  rw [SummedArea.get_sums, ← Region.sum_eq, RegionMap.average_exact hd.hasExtent hi hsum, hregion,
    Region.get_levels, map_ok]
  rfl

theorem cellAverages_eq (hd : d.IsModerate) :
    cellAverages (a.rewritten pixels d.sourceWidth.toNat d.sourceHeight.toNat) (.exact d) =
      .ok (firstValues (fun i => (d.regionAt i).levels pixels d.sourceWidth.toNat)
        d.cellCount) := by
  have h := foldlM_push_rows
    (cellAverage (a.rewritten pixels d.sourceWidth.toNat d.sourceHeight.toNat) (.exact d))
    (fun i => (d.regionAt i).levels pixels d.sourceWidth.toNat) (RegionMap.exact d).rows
    (RegionMap.exact d).columns 0 fun y hy x hx => by
      simp only [RegionMap.exact] at hy hx ⊢
      rw [getElem_axisSpans hy hd.outputHeight_pos, getElem_axisSpans hx hd.outputWidth_pos]
      rw [size_axisSpans_of_pos hd.outputWidth_pos] at hx ⊢
      rw [size_axisSpans_of_pos hd.outputHeight_pos] at hy
      rw [Nat.zero_add, Dimensions.regionAt_position y hx]
      exact cellAverage_eq a pixels hd hx hy
  have hsize : 0 + (RegionMap.exact d).rows.size * (RegionMap.exact d).columns.size =
      d.cellCount := by
    simp only [RegionMap.exact]
    rw [Nat.zero_add, size_axisSpans_of_pos hd.outputHeight_pos,
      size_axisSpans_of_pos hd.outputWidth_pos, Dimensions.cellCount]
  rw [hsize, firstValues_zero] at h
  exact h

end Averages

/-! ### Planes -/

namespace Planes

/-- The planes have one size. -/
def IsUniform (p : Planes) : Prop := p.g.size = p.r.size ∧ p.b.size = p.r.size

theorem isUniform_empty : empty.IsUniform := ⟨rfl, rfl⟩

variable {p : Planes}

theorem IsUniform.entries (hp : p.IsUniform) : p.entries = p.r.size := by
  rw [Planes.entries, hp.1, hp.2, Nat.min_self, Nat.min_self]

theorem IsUniform.ensure (hp : p.IsUniform) (n : Nat) :
    (p.ensure n).IsUniform ∧ n ≤ (p.ensure n).r.size := by
  obtain ⟨hg, hb⟩ := hp
  unfold Planes.ensure
  split
  · simp only [IsUniform, Channels.map, Array.size_append, Array.size_replicate]
    omega
  · exact ⟨⟨hg, hb⟩, by omega⟩

theorem size_overlay (plane fresh : Array UInt16) : (overlay plane fresh).size = plane.size := by
  simp only [overlay, Array.take_eq_extract, Array.drop_eq_extract, Array.size_append,
    Array.size_extract]
  omega

theorem getElem?_overlay {plane : Array UInt16} {f : Nat → UInt16} {n i : Nat} (hn : n ≤ plane.size)
    (hi : i < n) : (overlay plane (firstValues f n))[i]? = some (f i) := by
  -- the new entries fit the plane, so that none of them is cut off
  have htake : i < ((firstValues f n).take plane.size).size := by
    simp only [Array.take_eq_extract, Array.size_extract, size_firstValues]
    omega
  rw [overlay, Array.getElem?_append_left htake, Array.take_eq_extract, Array.getElem?_extract]
  simp only [size_firstValues, Nat.zero_add]
  rw [if_pos (by omega), getElem?_firstValues _ hi]

/-- The first `n` entries of the planes are given levels. -/
def Holds (p : Planes) (f : Nat → Channels UInt16) (n : Nat) : Prop :=
  ∀ i < n, ∀ channel, (p.get channel)[i]? = some ((f i).get channel)

/-- The second pass reads the levels. -/
theorem Holds.planeCells_eq {f : Nat → Channels UInt16} {n : Nat} (h : p.Holds f n) (t : Tables) :
    planeCells t p n = firstValues (fun i => t.cellOfLevels (f i).r (f i).g (f i).b) n := by
  refine firstValues_congr fun i hi => ?_
  have hentry := fun channel => congrArg (Option.getD · 0) (h i hi channel)
  simp only [← Array.getD_eq_getD_getElem?, Option.getD_some] at hentry
  exact congr (congrArg₂ t.cellOfLevels (hentry .red) (hentry .green)) (hentry .blue)

theorem IsUniform.overwrite (hp : p.IsUniform) (f : Nat → Channels UInt16) {n : Nat}
    (hn : n ≤ p.r.size) : ∃ q, p.overwrite (firstValues f n) = (q, .ok ()) ∧ q.IsUniform ∧
      n ≤ q.entries ∧ q.Holds f n := by
  obtain ⟨hg, hb⟩ := hp
  refine ⟨p.map fun channel plane => overlay plane ((firstValues f n).map (·.get channel)), ?_, ?_⟩
  · rw [Planes.overwrite, if_neg (by rw [size_firstValues]; omega)]
  have huniform : IsUniform (p.map fun channel plane =>
      overlay plane ((firstValues f n).map (·.get channel))) := by
    simp only [IsUniform, Channels.map, size_overlay]
    exact ⟨hg, hb⟩
  refine ⟨huniform, by rw [huniform.entries, Channels.map, size_overlay]; exact hn,
    fun i hi channel => ?_⟩
  have hroom : n ≤ (p.get channel).size := by
    cases channel
    · exact hn
    · exact hg ▸ hn
    · exact hb ▸ hn
  rw [Channels.get_map, map_firstValues, getElem?_overlay hroom hi]

end Planes

/-! ### Reducers -/

namespace Reducer

/-- What a reducer was used for before makes no difference: its region map is the one of the
dimensions it remembers, and its planes have one size.  Nothing need hold of its tables of sums. -/
structure IsCoherent (s : Reducer) : Prop where
  /-- The map need not be built anew for the dimensions it remembers. -/
  regions : s.regions.IsCurrent
  /-- The planes grow together. -/
  planes : s.planes.IsUniform

theorem isCoherent_empty : empty.IsCoherent := ⟨RegionMap.isCurrent_empty, Planes.isUniform_empty⟩

variable {s : Reducer} {d : Dimensions}

theorem IsCoherent.prepare (hs : s.IsCoherent) (hd : d.IsModerate) :
    ∃ rebuilt, s.prepare d = .ok (rebuilt, { s with regions := .exact d }) := by
  obtain ⟨rebuilt, hbuild⟩ := hs.regions.build hd
  exact ⟨rebuilt, by rw [Reducer.prepare, hbuild]; rfl⟩

/-- **A coherent reducer draws the cells of the regions** of a moderate frame, in either mode, and
stays coherent; the means are in its planes then. -/
theorem IsCoherent.reduce (hs : s.IsCoherent) (hd : d.IsModerate) (mode : Mode) (tables : Tables)
    {pixels : Array Pixel} (hp : d.sourceWidth.toNat * d.sourceHeight.toNat ≤ pixels.size) :
    ∃ s', ({ s with regions := .exact d } : Reducer).reduce mode tables pixels d.cellCount =
      (s', .ok (Region.cells tables pixels d)) ∧ s'.IsCoherent ∧
      s'.planes.Holds (fun i => (d.regionAt i).levels pixels d.sourceWidth.toNat) d.cellCount := by
  obtain ⟨huniform, hroom⟩ := hs.planes.ensure d.cellCount
  obtain ⟨q, hq, hquniform, hentries, hholds⟩ := huniform.overwrite
    (fun i => (d.regionAt i).levels pixels d.sourceWidth.toNat) hroom
  refine ⟨⟨.exact d, s.area.rewritten pixels d.sourceWidth.toNat d.sourceHeight.toNat, q⟩, ?_,
    ⟨RegionMap.isCurrent_of_ofDimensions (RegionMap.ofDimensions_eq hd), hquniform⟩, hholds⟩
  -- the means are bytes, so that cutting them down to bytes changes nothing
  have hshow : planeCells tables q d.cellCount = Region.cells tables pixels d := by
    rw [hholds.planeCells_eq, Region.cells_eq]
    refine firstValues_congr fun i hi => ?_
    exact congrArg tables.cell (Region.clampToByte_levels (hd.hasExtent.count_regionAt_pos hi) _ _)
  have hsum : ({ s with regions := .exact d } : Reducer).sum pixels =
      .ok ⟨.exact d, s.area.rewritten pixels d.sourceWidth.toNat d.sourceHeight.toNat,
        s.planes⟩ := by
    simp only [Reducer.sum, RegionMap.exact, SummedArea.build_of_le hp]
    rfl
  rw [Reducer.reduce, hsum]
  simp only [Reducer.average, cellAverages_eq s.area pixels hd, hq, ok_bind]
  rw [Mode.cells_eq, if_pos hentries, hshow]

end Reducer

end GlyphMosaic
