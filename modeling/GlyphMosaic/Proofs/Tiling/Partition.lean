import GlyphMosaic.Proofs.SummedArea.Rectangles
import GlyphMosaic.Proofs.Tiling.Maps

/-!
# Shrinking loses no pixel

On an axis with at least as many positions as pieces no piece is widened, and every piece ends where
the next one starts.  The rectangles of the cells are then a tiling of the source.

* `axisSpan_of_le` : piece `i` reaches from one boundary `axisCut source pieces i` to the next.
* `existsUnique_axisSpan` : every position lies in exactly one piece.
* `sum_axisSpans` : what is summed over the pieces is summed over the axis.
* `SumTable.sum_regionSum_ofCell` : what is summed over the rectangles is summed over the frame;
  counted, the pixels of the rectangles are those of the frame (`Region.sum_count_ofCell`).
* `RegionMap.build_partitions` : **the map and the tables of a frame that is shrunk lose no pixel
  and count none twice**, whatever they were built over.
-/

namespace GlyphMosaic

open Finset

/-! ### Boundaries -/

/-- The boundary before piece `i` of an axis, if none is widened. -/
def axisCut (source pieces i : Nat) : Nat := i * source / pieces

/-- A position is in a span. -/
def Span.Contains (s : Span) (x : Nat) : Prop := s.start ≤ x ∧ x < s.stop

section Axis

variable {source pieces i x : Nat}

@[simp] theorem axisCut_zero : axisCut source pieces 0 = 0 := by simp [axisCut]

theorem axisCut_last (hp : 0 < pieces) : axisCut source pieces pieces = source :=
  Nat.mul_div_cancel_left source hp

theorem axisCut_mono (source pieces : Nat) {i j : Nat} (h : i ≤ j) :
    axisCut source pieces i ≤ axisCut source pieces j :=
  Nat.div_le_div_right (Nat.mul_le_mul_right source h)

theorem axisCut_lt_succ (hp : 0 < pieces) (hle : pieces ≤ source) :
    axisCut source pieces i < axisCut source pieces (i + 1) := by
  have hnext : i * source + pieces ≤ (i + 1) * source := by
    rw [Nat.succ_mul]
    exact Nat.add_le_add_left hle _
  calc axisCut source pieces i < i * source / pieces + 1 := Nat.lt_succ_self _
    _ = (i * source + pieces) / pieces := (Nat.add_div_right _ hp).symm
    _ ≤ axisCut source pieces (i + 1) := Nat.div_le_div_right hnext

theorem axisSpan_of_le (hle : pieces ≤ source) (hi : i < pieces) :
    axisSpan source pieces i = ⟨axisCut source pieces i, axisCut source pieces (i + 1)⟩ := by
  have hp : 0 < pieces := by omega
  have hlt := axisCut_lt_succ (i := i) hp hle
  have hlast : axisCut source pieces (i + 1) ≤ source := by
    have := axisCut_mono source pieces (show i + 1 ≤ pieces from hi)
    rwa [axisCut_last hp] at this
  unfold axisCut at hlt hlast
  simp only [axisSpan, axisCut, if_neg (Nat.not_le.2 hlt), Nat.min_eq_left hlast]

theorem exists_axisCut_le_lt {n : Nat} (hx : x < axisCut source pieces n) :
    ∃ i < n, axisCut source pieces i ≤ x ∧ x < axisCut source pieces (i + 1) := by
  induction n with
  | zero => rw [axisCut_zero] at hx; omega
  | succ n ih =>
    by_cases hn : x < axisCut source pieces n
    · obtain ⟨i, hi, hcut⟩ := ih hn
      exact ⟨i, by omega, hcut⟩
    · exact ⟨n, by omega, Nat.not_lt.1 hn, hx⟩

theorem axisCut_unique {j : Nat}
    (hi : axisCut source pieces i ≤ x ∧ x < axisCut source pieces (i + 1))
    (hj : axisCut source pieces j ≤ x ∧ x < axisCut source pieces (j + 1)) : i = j := by
  by_contra hne
  obtain hlt | hlt := Nat.lt_or_gt_of_ne hne
  · have := axisCut_mono source pieces (show i + 1 ≤ j from hlt)
    omega
  · have := axisCut_mono source pieces (show j + 1 ≤ i from hlt)
    omega

/-- **Every position lies in exactly one piece.** -/
theorem existsUnique_axisSpan (hp : 0 < pieces) (hle : pieces ≤ source) (hx : x < source) :
    ∃! i, i < pieces ∧ (axisSpan source pieces i).Contains x := by
  obtain ⟨i, hi, hcut⟩ := exists_axisCut_le_lt (n := pieces) (by rwa [axisCut_last hp])
  refine ⟨i, ⟨hi, ?_⟩, ?_⟩
  · rw [axisSpan_of_le hle hi]
    exact hcut
  · rintro j ⟨hj, hcontains⟩
    rw [axisSpan_of_le hle hj] at hcontains
    exact axisCut_unique hcontains hcut

theorem sum_axisCut (f : Nat → Nat) (source pieces n : Nat) :
    ∑ i ∈ range n, ∑ x ∈ Ico (axisCut source pieces i) (axisCut source pieces (i + 1)), f x =
      ∑ x ∈ Ico 0 (axisCut source pieces n), f x := by
  induction n with
  | zero => simp
  | succ n ih =>
    rw [sum_range_succ, ih, sum_Ico_consecutive f (Nat.zero_le _)
      (axisCut_mono source pieces (Nat.le_succ n))]

/-- **What is summed over the pieces is summed over the axis.** -/
theorem sum_axisSpans (f : Nat → Nat) (hp : 0 < pieces) (hle : pieces ≤ source) :
    ∑ i ∈ range pieces,
        ∑ x ∈ Ico (axisSpan source pieces i).start (axisSpan source pieces i).stop, f x =
      ∑ x ∈ Ico 0 source, f x := by
  have hcut := sum_axisCut f source pieces pieces
  rw [axisCut_last hp] at hcut
  rw [← hcut]
  refine sum_congr rfl fun i hi => ?_
  rw [axisSpan_of_le hle (mem_range.1 hi)]

end Axis

/-! ### Rectangles -/

/-- A sum row by row is a sum over the positions. -/
theorem sum_range_rows (f : Nat → Nat) (m n : Nat) :
    ∑ y ∈ range m, ∑ x ∈ range n, f (y * n + x) = ∑ i ∈ range (m * n), f i := by
  induction m with
  | zero => simp
  | succ m ih => rw [sum_range_succ, ih, Nat.succ_mul, sum_range_add]

/-- Fewer pixels are shown than there are, or as many: the output has an extent and no more columns
and rows than the source, whose pixels can be counted in 32 bits. -/
structure Dimensions.IsShrinking (d : Dimensions) : Prop where
  outputWidth_pos : 0 < d.outputWidth.toNat
  outputHeight_pos : 0 < d.outputHeight.toNat
  width_le : d.outputWidth.toNat ≤ d.sourceWidth.toNat
  height_le : d.outputHeight.toNat ≤ d.sourceHeight.toNat
  source_lt : d.sourceWidth.toNat * d.sourceHeight.toNat < 2 ^ 32

variable {d : Dimensions}

theorem Dimensions.IsShrinking.isModerate (hd : d.IsShrinking) : d.IsModerate :=
  ⟨Nat.lt_of_lt_of_le hd.outputWidth_pos hd.width_le,
    Nat.lt_of_lt_of_le hd.outputHeight_pos hd.height_le,
    hd.outputWidth_pos, hd.outputHeight_pos, hd.source_lt⟩

namespace SumTable

theorem levelSum_frame (level : Nat → Nat) (w h : Nat) :
    levelSum level w 0 w 0 h = ∑ i ∈ range (w * h), level i := by
  unfold levelSum
  rw [Nat.Ico_zero_eq_range, Nat.Ico_zero_eq_range, sum_range_rows, Nat.mul_comm]

theorem levelSum_one (w x₀ x₁ y₀ y₁ : Nat) :
    levelSum (fun _ => 1) w x₀ x₁ y₀ y₁ = (x₁ - x₀) * (y₁ - y₀) := by
  simp [levelSum, Nat.mul_comm]

/-- The sum over a rectangle. -/
def regionSum (level : Nat → Nat) (w : Nat) (r : Region) : Nat :=
  levelSum level w r.columns.start r.columns.stop r.rows.start r.rows.stop

theorem regionSum_one (w : Nat) (r : Region) : regionSum (fun _ => 1) w r = r.count :=
  levelSum_one ..

/-- **What is summed over the rectangles is summed over the frame.** -/
theorem sum_regionSum_ofCell (level : Nat → Nat) (hd : d.IsShrinking) :
    ∑ row ∈ range d.outputHeight.toNat, ∑ column ∈ range d.outputWidth.toNat,
        regionSum level d.sourceWidth.toNat (.ofCell d column row) =
      ∑ i ∈ range (d.sourceWidth.toNat * d.sourceHeight.toNat), level i := by
  -- the columns of a row of cells make up the rows of the source that it spans
  have hrow : ∀ row, ∑ column ∈ range d.outputWidth.toNat,
        regionSum level d.sourceWidth.toNat (.ofCell d column row) =
      ∑ y ∈ Ico (axisSpan d.sourceHeight.toNat d.outputHeight.toNat row).start
          (axisSpan d.sourceHeight.toNat d.outputHeight.toNat row).stop,
        ∑ x ∈ Ico 0 d.sourceWidth.toNat, level (y * d.sourceWidth.toNat + x) := by
    intro row
    simp only [regionSum, levelSum, Region.ofCell]
    rw [sum_comm]
    exact sum_congr rfl fun y _ =>
      sum_axisSpans (fun x => level (y * d.sourceWidth.toNat + x)) hd.outputWidth_pos hd.width_le
  rw [← levelSum_frame, levelSum, ← sum_axisSpans _ hd.outputHeight_pos hd.height_le]
  exact sum_congr rfl fun row _ => hrow row

end SumTable

/-- The sums of the three channels over a rectangle. -/
def SummedArea.regionSums (pixels : Array Pixel) (w : Nat) (r : Region) : Channels Nat :=
  sums pixels w r.columns.start r.columns.stop r.rows.start r.rows.stop

@[simp] theorem SummedArea.get_regionSums (pixels : Array Pixel) (w : Nat) (r : Region)
    (channel : Channel) : (regionSums pixels w r).get channel =
      SumTable.regionSum (Region.levelAt pixels channel) w r :=
  get_sums ..

/-- **The pixels of the cells are those of the frame**, in number. -/
theorem Region.sum_count_ofCell (hd : d.IsShrinking) :
    ∑ row ∈ range d.outputHeight.toNat, ∑ column ∈ range d.outputWidth.toNat,
        (Region.ofCell d column row).count = d.sourceWidth.toNat * d.sourceHeight.toNat := by
  have hones := SumTable.sum_regionSum_ofCell (fun _ => 1) hd
  rw [← SumTable.levelSum_frame] at hones
  simpa only [SumTable.regionSum_one, SumTable.levelSum_one, Nat.sub_zero] using hones

theorem sum_firstValues (g : Nat → Nat) (n : Nat) : (firstValues g n).sum = ∑ i ∈ range n, g i := by
  induction n with
  | zero => simp
  | succ n ih => rw [firstValues_succ, Array.sum_push, ih, sum_range_succ]

/-! ### Maps -/

namespace RegionMap

variable {m : RegionMap}

/-- The rectangle of a cell covers a pixel. -/
def Covers (m : RegionMap) (column row x y : Nat) : Prop :=
  ∃ c r, m.columns[column]? = some c ∧ m.rows[row]? = some r ∧ c.Contains x ∧ r.Contains y

theorem covers_exact (hd : d.HasExtent) {column row x y : Nat} : (exact d).Covers column row x y ↔
    (column < d.outputWidth.toNat ∧
      (axisSpan d.sourceWidth.toNat d.outputWidth.toNat column).Contains x) ∧
    (row < d.outputHeight.toNat ∧
      (axisSpan d.sourceHeight.toNat d.outputHeight.toNat row).Contains y) := by
  unfold Covers exact
  simp only [getElem?_axisSpans hd.outputWidth_pos, getElem?_axisSpans hd.outputHeight_pos]
  constructor
  · rintro ⟨c, r, ⟨hc, rfl⟩, ⟨hr, rfl⟩, hx, hy⟩
    exact ⟨⟨hc, hx⟩, hr, hy⟩
  · rintro ⟨⟨hc, hx⟩, hr, hy⟩
    exact ⟨_, _, ⟨hc, rfl⟩, ⟨hr, rfl⟩, hx, hy⟩

/-- Every pixel of a source that is shrunk is covered by exactly one cell. -/
theorem existsUnique_covers (hd : d.IsShrinking) {x y : Nat} (hx : x < d.sourceWidth.toNat)
    (hy : y < d.sourceHeight.toNat) :
    ∃! cell : Nat × Nat, (exact d).Covers cell.1 cell.2 x y := by
  obtain ⟨column, hcolumn, honly⟩ := existsUnique_axisSpan hd.outputWidth_pos hd.width_le hx
  obtain ⟨row, hrow, honly'⟩ := existsUnique_axisSpan hd.outputHeight_pos hd.height_le hy
  have hextent := hd.isModerate.hasExtent
  refine ⟨(column, row), (covers_exact hextent).2 ⟨hcolumn, hrow⟩, ?_⟩
  rintro ⟨column', row'⟩ hcovers
  obtain ⟨hcolumn', hrow'⟩ := (covers_exact hextent).1 hcovers
  rw [honly column' hcolumn', honly' row' hrow']

theorem sum_counts_exact (hd : d.IsShrinking) :
    (exact d).counts.sum = d.sourceWidth.toNat * d.sourceHeight.toNat := by
  rw [exact, sum_firstValues, Dimensions.cellCount, ← sum_range_rows, ← Region.sum_count_ofCell hd]
  refine sum_congr rfl fun row _ => sum_congr rfl fun column hc => ?_
  rw [Dimensions.regionAt_position row (mem_range.1 hc)]

/-- The tables of `a` hold the sums over the rectangle of a cell. -/
def ReadsSums (m : RegionMap) (a : SummedArea) (column row : Nat) (sums : Channels Nat) : Prop :=
  ∃ c r, m.columns[column]? = some c ∧ m.rows[row]? = some r ∧
    a.rectangle c.start c.stop r.start r.stop = .ok sums

theorem readsSums_exact (hd : d.IsModerate) (a : SummedArea) (pixels : Array Pixel)
    {column row : Nat} (hc : column < d.outputWidth.toNat) (hr : row < d.outputHeight.toNat) :
    (exact d).ReadsSums (a.rewritten pixels d.sourceWidth.toNat d.sourceHeight.toNat) column row
      (SummedArea.regionSums pixels d.sourceWidth.toNat (.ofCell d column row)) := by
  have hcell := isExactAt_exact hd.hasExtent hc hr
  have hfit := hd.source_lt
  exact ⟨_, _, hcell.columns, hcell.rows, SummedArea.rectangle_rewritten
    (Nat.pos_iff_ne_zero.1 hd.sourceWidth_pos) (by omega)
    (Nat.le_of_lt (axisSpan_start_lt_stop hd.sourceWidth_pos hc)) axisSpan_stop_le
    (Nat.le_of_lt (axisSpan_start_lt_stop hd.sourceHeight_pos hr)) axisSpan_stop_le⟩

/-- **Shrinking a frame loses no pixel and counts none twice.**  After any history of builds and
releases, and over whatever tables, the map of a source that is shrunk and the tables of its pixels
are built.  Every pixel is covered by exactly one cell, the counts of the cells add up to the
pixels, and so do, channel by channel, the sums that are read off for the cells to that of the
frame. -/
theorem build_partitions {history : List Call} (hm : empty.afterAll history = .ok m)
    (a : SummedArea) (hd : d.IsShrinking) (pixels : Array Pixel)
    (hp : d.sourceWidth.toNat * d.sourceHeight.toNat ≤ pixels.size) :
    ∃ rebuilt m' a', m.build d = .ok (rebuilt, m') ∧
      a.build pixels d.sourceWidth.toNat d.sourceHeight.toNat = .ok a' ∧
      (∀ x < d.sourceWidth.toNat, ∀ y < d.sourceHeight.toNat,
        ∃! cell : Nat × Nat, m'.Covers cell.1 cell.2 x y) ∧
      m'.counts.size = d.outputHeight.toNat * d.outputWidth.toNat ∧
      m'.counts.sum = d.sourceWidth.toNat * d.sourceHeight.toNat ∧
      ∃ sums : Nat → Nat → Channels Nat,
        (∀ column < d.outputWidth.toNat, ∀ row < d.outputHeight.toNat,
          m'.ReadsSums a' column row (sums column row)) ∧
        ∀ channel, ∑ row ∈ range d.outputHeight.toNat, ∑ column ∈ range d.outputWidth.toNat,
            (sums column row).get channel =
          ∑ i ∈ range (d.sourceWidth.toNat * d.sourceHeight.toNat),
            Region.levelAt pixels channel i := by
  obtain ⟨rebuilt, hbuild⟩ := (isCurrent_empty.afterAll hm).build hd.isModerate
  refine ⟨rebuilt, exact d, _, hbuild, SummedArea.build_of_le hp,
    fun x hx y hy => existsUnique_covers hd hx hy, size_firstValues _ _, sum_counts_exact hd,
    fun column row => SummedArea.regionSums pixels d.sourceWidth.toNat (.ofCell d column row),
    fun column hc row hr => readsSums_exact hd.isModerate a pixels hc hr, fun channel => ?_⟩
  simp only [SummedArea.get_regionSums]
  exact SumTable.sum_regionSum_ofCell (Region.levelAt pixels channel) hd

/-- Five by three pixels over two by two cells, after a larger map: the columns are 2 and 3 wide,
the rows 1 and 2 high. -/
theorem build_partitions_small : ∃ m rebuilt m' a', empty.afterAll [.build ⟨8, 8, 4, 4⟩] = .ok m ∧
    m.build ⟨5, 3, 2, 2⟩ = .ok (rebuilt, m') ∧
    SummedArea.empty.build (Array.replicate 16 0xFF010203) 5 3 = .ok a' ∧
    (∃! cell : Nat × Nat, m'.Covers cell.1 cell.2 2 1) ∧ m'.counts = #[2, 3, 4, 6] ∧
    m'.counts.sum = 15 ∧ ∃ sums : Nat → Nat → Channels Nat, m'.ReadsSums a' 1 1 (sums 1 1) ∧
      (sums 0 0).b + (sums 1 0).b + ((sums 0 1).b + (sums 1 1).b) = 45 := by
  obtain ⟨m, hm⟩ : ∃ m, empty.afterAll [.build ⟨8, 8, 4, 4⟩] = .ok m := ⟨_, rfl⟩
  obtain ⟨rebuilt, m', a', hbuild, harea, hcovers, -, hcounts, sums, hreads, hsums⟩ :=
    build_partitions hm .empty (d := ⟨5, 3, 2, 2⟩)
      ⟨by decide, by decide, by decide, by decide, by decide⟩
      (Array.replicate 16 0xFF010203) (by decide)
  refine ⟨m, rebuilt, m', a', hm, hbuild, harea, hcovers 2 (by decide) 1 (by decide), ?_, hcounts,
    sums, hreads 1 (by decide) 1 (by decide), ?_⟩
  · obtain ⟨_, hexact⟩ := (isCurrent_empty.afterAll hm).build (d := ⟨5, 3, 2, 2⟩)
      ⟨by decide, by decide, by decide, by decide, by decide⟩
    obtain ⟨-, rfl⟩ := Prod.mk.inj (Except.ok.inj (hbuild.symm.trans hexact))
    decide
  · have hframe : ∑ i ∈ range 15, Region.levelAt (Array.replicate 16 0xFF010203) .blue i = 45 := by
      rw [sum_congr rfl fun i hi =>
        SummedArea.levelAt_replicate _ _ (by have := mem_range.1 hi; omega)]
      rfl
    have hcells : ∑ row ∈ range 2, ∑ column ∈ range 2, (sums column row).get .blue = 45 :=
      (hsums .blue).trans hframe
    simpa [sum_range_succ, Channels.get] using hcells

end RegionMap

end GlyphMosaic
