import GlyphMosaic.Proofs.RowMajor
import GlyphMosaic.Reduction.Region

/-!
# What a region map holds

A region map of a source and an output that have an extent is `RegionMap.exact`: at the position of
each cell stand the number of pixels of its rectangle and that number's reciprocal.

* `axisSpan_start_lt_stop` and `axisSpan_stop_le` : every span has a position, and lies in its axis.
* `axisSpansInWords_eq` : no product and no position on the way to the spans leaves its word.
* `RegionMap.ofDimensions_eq_of_fits` : **a map whose counts fit 32 bits is built**, and is the
  exact one; those of a source of fewer than `2 ^ 32` pixels do (`RegionMap.ofDimensions_eq`).
* `RegionMap.IsCurrent` : a map is the one of the dimensions it remembers, so that not building it
  anew makes no difference (`RegionMap.IsCurrent.build`).
* `RegionMap.average_exact` : the mean read off an exact map is `fixedMean`, at most 255 for levels
  that are (`fixedMean_le`).
-/

namespace GlyphMosaic

/-! ### Spans -/

section Spans

variable {source pieces i : Nat}

theorem axisSpan_start_lt (hs : 0 < source) (hi : i < pieces) :
    (axisSpan source pieces i).start < source := by
  change i * source / pieces < source
  rw [Nat.div_lt_iff_lt_mul (by omega), Nat.mul_comm source]
  exact Nat.mul_lt_mul_of_pos_right hi hs

theorem axisSpan_stop_le : (axisSpan source pieces i).stop ≤ source := Nat.min_le_right _ _

theorem axisSpan_start_lt_stop (hs : 0 < source) (hi : i < pieces) :
    (axisSpan source pieces i).start < (axisSpan source pieces i).stop := by
  have hstart := axisSpan_start_lt hs hi
  simp only [axisSpan] at hstart ⊢
  split <;> omega

theorem axisSpan_length_le : (axisSpan source pieces i).length ≤ source :=
  Nat.le_trans (Nat.sub_le _ _) axisSpan_stop_le

theorem axisSpan_length_pos (hs : 0 < source) (hi : i < pieces) :
    0 < (axisSpan source pieces i).length :=
  Nat.sub_pos_of_lt (axisSpan_start_lt_stop hs hi)

theorem getElem_axisSpans (hi : i < (axisSpans source pieces).size) (hp : 0 < pieces) :
    (axisSpans source pieces)[i] = axisSpan source pieces i := by
  simp [axisSpans, Nat.max_eq_left (show 1 ≤ pieces from hp)]

theorem size_axisSpans_of_pos (hp : 0 < pieces) : (axisSpans source pieces).size = pieces := by
  rw [size_axisSpans, Nat.max_eq_left (show 1 ≤ pieces from hp)]

theorem getElem?_axisSpans {s : Span} (hp : 0 < pieces) :
    (axisSpans source pieces)[i]? = some s ↔ i < pieces ∧ s = axisSpan source pieces i := by
  rw [Array.getElem?_eq_some_iff]
  constructor
  · rintro ⟨hi, rfl⟩
    exact ⟨by rwa [size_axisSpans_of_pos hp] at hi, getElem_axisSpans hi hp⟩
  · rintro ⟨hi, rfl⟩
    exact ⟨by rwa [size_axisSpans_of_pos hp], getElem_axisSpans _ hp⟩

theorem mem_axisSpans {s : Span} (hp : 0 < pieces) :
    s ∈ axisSpans source pieces ↔ ∃ i < pieces, s = axisSpan source pieces i := by
  simp only [Array.mem_iff_getElem?, getElem?_axisSpans hp]

theorem axisSpanInWords_eq (hs : source < 2 ^ 32) (hp : pieces < 2 ^ 32) (hi : i < pieces) :
    axisSpanInWords source pieces i = .ok (axisSpan source pieces i) := by
  have hpositive : 0 < pieces := by omega
  have hproduct : pieces * source < 2 ^ 64 := by
    have := Nat.mul_le_mul (Nat.le_sub_one_of_lt hp) (Nat.le_sub_one_of_lt hs)
    omega
  have hbelow : i * source ≤ pieces * source := Nat.mul_le_mul_right _ (Nat.le_of_lt hi)
  have habove : (i + 1) * source ≤ pieces * source := Nat.mul_le_mul_right _ hi
  have hstart : i * source / pieces ≤ source := Nat.div_le_of_le_mul hbelow
  have hstop : (i + 1) * source / pieces ≤ source := Nat.div_le_of_le_mul habove
  have hwiden : i * source / pieces + 1 < 2 ^ 32 := by
    rcases Nat.eq_zero_or_pos source with rfl | hsource
    · simp
    · -- the start is a position, so that the one behind it is at most the end of the axis
      have hlt : i * source / pieces < source := axisSpan_start_lt hsource hi
      omega
  rw [axisSpanInWords, fitting_of_lt (by omega), ok_bind, fitting_of_lt (by omega), ok_bind,
    fitting_of_lt (by omega), ok_bind, fitting_of_lt (by omega), ok_bind, fitting_of_lt (by omega),
    ok_bind, fitting_of_lt hwiden]
  unfold axisSpan
  dsimp only
  split <;> rfl

/-- **The spans are the same in machine words**, for all lengths and numbers of pieces. -/
theorem axisSpansInWords_eq (source pieces : UInt32) :
    axisSpansInWords source pieces = .ok (axisSpans source.toNat pieces.toNat) := by
  have hpieces : max pieces.toNat 1 < 2 ^ 32 := by
    have := pieces.toNat_lt
    omega
  have h := foldlM_push (fun i _ => axisSpanInWords source.toNat (max pieces.toNat 1) i)
    (axisSpan source.toNat (max pieces.toNat 1)) (Array.range (max pieces.toNat 1)) 0 fun i hi => by
      rw [Array.size_range] at hi
      rw [Array.getElem_range, Nat.zero_add]
      exact axisSpanInWords_eq source.toNat_lt hpieces hi
  rw [firstValues_zero, Nat.zero_add] at h
  refine h.trans ?_
  rw [Array.size_range]
  rfl

end Spans

/-! ### Means -/

/-- The mean is exact division, or multiplication by the reciprocal for up to 65536 levels. -/
theorem fixedMean_eq {count : Nat} (hc : 0 < count) (sum : Nat) :
    fixedMean count sum =
      if count ≤ 65536 then sum * (65536 / count) / 2 ^ 16 else sum / count := by
  unfold fixedMean reciprocal fixedOne
  by_cases h : count ≤ 65536
  · have hpos : 0 < 65536 / count := Nat.div_pos h hc
    rw [if_pos h]
    exact if_pos (Nat.pos_iff_ne_zero.1 hpos)
  · have hzero : 65536 / count = 0 := Nat.div_eq_of_lt (by omega)
    rw [if_neg h]
    exact if_neg fun hne => hne hzero

theorem fixedMean_le_div {count : Nat} (hc : 0 < count) (sum : Nat) :
    fixedMean count sum ≤ sum / count := by
  unfold fixedMean
  split
  · rw [Nat.le_div_iff_mul_le hc]
    have hrec : reciprocal count * count ≤ fixedOne := Nat.div_mul_le_self _ _
    have hfloor : sum * reciprocal count / fixedOne * fixedOne ≤ sum * reciprocal count :=
      Nat.div_mul_le_self _ _
    have hpos : 0 < fixedOne := by decide
    refine Nat.le_of_mul_le_mul_right ?_ hpos
    calc sum * reciprocal count / fixedOne * count * fixedOne
        = sum * reciprocal count / fixedOne * fixedOne * count := Nat.mul_right_comm _ _ _
      _ ≤ sum * reciprocal count * count := Nat.mul_le_mul_right _ hfloor
      _ = sum * (reciprocal count * count) := Nat.mul_assoc _ _ _
      _ ≤ sum * fixedOne := Nat.mul_le_mul_left _ hrec
  · exact Nat.le_refl _

theorem fixedMean_le {count sum : Nat} (hc : 0 < count) (hsum : sum ≤ 255 * count) :
    fixedMean count sum ≤ 255 :=
  Nat.le_trans (fixedMean_le_div hc sum) (Nat.div_le_of_le_mul (by rwa [Nat.mul_comm]))

/-! ### Rectangles of cells -/

namespace Region

variable {d : Dimensions} {column row : Nat}

theorem count_ofCell_le :
    (ofCell d column row).count ≤ d.sourceWidth.toNat * d.sourceHeight.toNat :=
  Nat.mul_le_mul axisSpan_length_le axisSpan_length_le

theorem count_ofCell_pos (hw : 0 < d.sourceWidth.toNat) (hh : 0 < d.sourceHeight.toNat)
    (hc : column < d.outputWidth.toNat) (hr : row < d.outputHeight.toNat) :
    0 < (ofCell d column row).count :=
  Nat.mul_pos (axisSpan_length_pos hw hc) (axisSpan_length_pos hh hr)

end Region

/-! ### Maps -/

/-- The source and the output have an extent. -/
structure Dimensions.HasExtent (d : Dimensions) : Prop where
  sourceWidth_pos : 0 < d.sourceWidth.toNat
  sourceHeight_pos : 0 < d.sourceHeight.toNat
  outputWidth_pos : 0 < d.outputWidth.toNat
  outputHeight_pos : 0 < d.outputHeight.toNat

/-- The source and the output have an extent, and the source has fewer pixels than fit 32 bits. -/
structure Dimensions.IsModerate (d : Dimensions) : Prop where
  sourceWidth_pos : 0 < d.sourceWidth.toNat
  sourceHeight_pos : 0 < d.sourceHeight.toNat
  outputWidth_pos : 0 < d.outputWidth.toNat
  outputHeight_pos : 0 < d.outputHeight.toNat
  source_lt : d.sourceWidth.toNat * d.sourceHeight.toNat < 2 ^ 32

namespace Dimensions

variable (d : Dimensions)

/-- The number of cells of the output. -/
def cellCount : Nat := d.outputHeight.toNat * d.outputWidth.toNat

/-- The rectangle of the cell at a position. -/
def regionAt (i : Nat) : Region := .ofCell d (i % d.outputWidth.toNat) (i / d.outputWidth.toNat)

variable {d}

theorem regionAt_position {column : Nat} (row : Nat) (hc : column < d.outputWidth.toNat) :
    d.regionAt (row * d.outputWidth.toNat + column) = .ofCell d column row := by
  unfold regionAt
  rw [Nat.mul_add_mod_of_lt hc, rowMajor_div row hc]

theorem position_lt {column row : Nat} (hc : column < d.outputWidth.toNat)
    (hr : row < d.outputHeight.toNat) : row * d.outputWidth.toNat + column < d.cellCount :=
  rowMajor_lt hc hr

theorem HasExtent.count_regionAt_pos (hd : d.HasExtent) {i : Nat} (hi : i < d.cellCount) :
    0 < (d.regionAt i).count :=
  Region.count_ofCell_pos hd.sourceWidth_pos hd.sourceHeight_pos (Nat.mod_lt _ hd.outputWidth_pos)
    (Nat.div_lt_of_lt_mul (by rwa [cellCount, Nat.mul_comm] at hi))

theorem IsModerate.hasExtent (hd : d.IsModerate) : d.HasExtent :=
  ⟨hd.sourceWidth_pos, hd.sourceHeight_pos, hd.outputWidth_pos, hd.outputHeight_pos⟩

theorem IsModerate.count_lt (hd : d.IsModerate) (column row : Nat) :
    (Region.ofCell d column row).count < 2 ^ 32 :=
  Nat.lt_of_le_of_lt Region.count_ofCell_le hd.source_lt

end Dimensions

namespace RegionMap

/-- The map of given dimensions, with the true counts. -/
def exact (d : Dimensions) : RegionMap :=
  ⟨axisSpans d.sourceWidth.toNat d.outputWidth.toNat,
    axisSpans d.sourceHeight.toNat d.outputHeight.toNat,
    firstValues (fun i => (d.regionAt i).count) d.cellCount,
    (firstValues (fun i => (d.regionAt i).count) d.cellCount).map reciprocal, some d⟩

variable {d : Dimensions}

theorem ofDimensions_eq_map (d : Dimensions) : ofDimensions d =
    (fun counts => ⟨axisSpans d.sourceWidth.toNat d.outputWidth.toNat,
      axisSpans d.sourceHeight.toNat d.outputHeight.toNat, counts,
      counts.map reciprocal, some d⟩) <$>
      countCells (axisSpans d.sourceWidth.toNat d.outputWidth.toNat)
        (axisSpans d.sourceHeight.toNat d.outputHeight.toNat) := by
  rw [ofDimensions, axisSpansInWords_eq, axisSpansInWords_eq]
  rfl

/-- The pixel counts of all cells, row by row. -/
def cellCounts (columns rows : Array Span) : Array Nat :=
  firstValues (fun i => (rows.getD (i / columns.size) ⟨0, 0⟩).length *
    (columns.getD (i % columns.size) ⟨0, 0⟩).length) (rows.size * columns.size)

theorem countCells_of_fits {columns rows : Array Span}
    (hfits : ∀ row ∈ rows, ∀ column ∈ columns, row.length * column.length < 2 ^ 32) :
    countCells columns rows = .ok (cellCounts columns rows) := by
  have h := foldlM_push_rows
    (fun (row : Span) _ (column : Span) => fitting 32 (row.length * column.length))
    (fun i => (rows.getD (i / columns.size) ⟨0, 0⟩).length *
      (columns.getD (i % columns.size) ⟨0, 0⟩).length) rows columns 0 fun y hy x hx => by
      rw [Nat.zero_add, rowMajor_div y hx, Nat.mul_add_mod_of_lt hx]
      simp only [Array.getD_eq_getD_getElem?, Array.getElem?_eq_getElem hy,
        Array.getElem?_eq_getElem hx, Option.getD_some]
      exact fitting_of_lt (hfits _ (Array.getElem_mem hy) _ (Array.getElem_mem hx))
  -- `foldlM_push_rows` starts behind the values that are there, of which there are none
  rw [Nat.zero_add, firstValues_zero] at h
  exact h

theorem countCells_eq (hw : 0 < d.outputWidth.toNat) (hh : 0 < d.outputHeight.toNat)
    (hfits : ∀ column < d.outputWidth.toNat, ∀ row < d.outputHeight.toNat,
      (Region.ofCell d column row).count < 2 ^ 32) :
    countCells (axisSpans d.sourceWidth.toNat d.outputWidth.toNat)
        (axisSpans d.sourceHeight.toNat d.outputHeight.toNat) =
      .ok (firstValues (fun i => (d.regionAt i).count) d.cellCount) := by
  rw [countCells_of_fits]
  · rw [cellCounts, size_axisSpans_of_pos hh, size_axisSpans_of_pos hw]
    refine congrArg Except.ok (firstValues_congr fun i hi => ?_)
    have hrow : i / d.outputWidth.toNat < d.outputHeight.toNat :=
      Nat.div_lt_of_lt_mul (by rwa [Nat.mul_comm])
    have hcolumn := Nat.mod_lt i hw
    simp only [Array.getD_eq_getD_getElem?, (getElem?_axisSpans hh).2 ⟨hrow, rfl⟩,
      (getElem?_axisSpans hw).2 ⟨hcolumn, rfl⟩, Option.getD_some]
    exact Nat.mul_comm _ _
  · intro row hrow column hcolumn
    obtain ⟨y, hy, rfl⟩ := (mem_axisSpans hh).1 hrow
    obtain ⟨x, hx, rfl⟩ := (mem_axisSpans hw).1 hcolumn
    rw [Nat.mul_comm]
    exact hfits x hx y hy

theorem ofDimensions_eq_exact (hw : 0 < d.outputWidth.toNat) (hh : 0 < d.outputHeight.toNat)
    (hfits : ∀ column < d.outputWidth.toNat, ∀ row < d.outputHeight.toNat,
      (Region.ofCell d column row).count < 2 ^ 32) : ofDimensions d = .ok (exact d) := by
  rw [ofDimensions_eq_map, countCells_eq hw hh hfits]
  rfl

/-- **A map whose counts fit 32 bits is built**, and is the exact one. -/
theorem ofDimensions_eq_of_fits (hd : d.HasExtent)
    (hfits : ∀ column < d.outputWidth.toNat, ∀ row < d.outputHeight.toNat,
      (Region.ofCell d column row).count < 2 ^ 32) : ofDimensions d = .ok (exact d) :=
  ofDimensions_eq_exact hd.outputWidth_pos hd.outputHeight_pos hfits

/-- **The map of a moderate source is built**, and is the exact one. -/
theorem ofDimensions_eq (hd : d.IsModerate) : ofDimensions d = .ok (exact d) :=
  ofDimensions_eq_of_fits hd.hasExtent fun column _ row _ => hd.count_lt column row

/-- A map that was built is the one of the dimensions it remembers. -/
def IsCurrent (m : RegionMap) : Prop := ∀ d, m.dims = some d → ofDimensions d = .ok m

theorem isCurrent_empty : IsCurrent .empty := by
  intro d h
  cases h

theorem dims_of_ofDimensions {m : RegionMap} (h : ofDimensions d = .ok m) : m.dims = some d := by
  rw [ofDimensions_eq_map] at h
  cases hc : countCells (axisSpans d.sourceWidth.toNat d.outputWidth.toNat)
    (axisSpans d.sourceHeight.toNat d.outputHeight.toNat) with
  | error e => rw [hc] at h; cases h
  | ok counts => rw [hc] at h; cases h; rfl

theorem isCurrent_of_ofDimensions {m : RegionMap} (h : ofDimensions d = .ok m) : m.IsCurrent := by
  intro d' hd'
  rw [dims_of_ofDimensions h, Option.some.injEq] at hd'
  rw [← hd', h]

theorem IsCurrent.build_of_ofDimensions {m fresh : RegionMap} (hm : m.IsCurrent)
    (h : ofDimensions d = .ok fresh) : ∃ rebuilt, m.build d = .ok (rebuilt, fresh) := by
  unfold RegionMap.build
  split
  · rename_i hdims
    exact ⟨false, by rw [Except.ok.inj ((hm d hdims).symm.trans h)]⟩
  · exact ⟨true, by rw [h]; rfl⟩

/-- Building a current map for moderate dimensions gives their map, whether it was there or not. -/
theorem IsCurrent.build {m : RegionMap} (hm : m.IsCurrent) (hd : d.IsModerate) :
    ∃ rebuilt, m.build d = .ok (rebuilt, exact d) :=
  hm.build_of_ofDimensions (ofDimensions_eq hd)

/-! ### Reading a map -/

/-- The reciprocal is rounded down, so that its product with a sum of bytes is at most
`255 * 2 ^ 16`. -/
theorem mul_reciprocal_lt {count sum : Nat} (hsum : sum ≤ 255 * count) :
    sum * reciprocal count < 2 ^ 64 := by
  have hone : reciprocal count * count ≤ fixedOne := Nat.div_mul_le_self _ _
  calc sum * reciprocal count ≤ 255 * count * reciprocal count := Nat.mul_le_mul_right _ hsum
    _ = 255 * (reciprocal count * count) := by rw [Nat.mul_assoc, Nat.mul_comm count]
    _ ≤ 255 * fixedOne := Nat.mul_le_mul_left _ hone
    _ < 2 ^ 64 := by decide

/-- Where a map keeps a count and its reciprocal, the mean of levels that are bytes is
`fixedMean`. -/
theorem average_of_fetch {m : RegionMap} {i count sum : Nat} (hcount : fetch m.counts i = .ok count)
    (hinverse : fetch m.reciprocals i = .ok (reciprocal count)) (hpos : 0 < count)
    (hsum : sum ≤ 255 * count) : m.average i sum = .ok (fixedMean count sum) := by
  have hle := fixedMean_le hpos hsum
  unfold fixedMean at hle ⊢
  rw [average, hinverse, ok_bind]
  by_cases hr : reciprocal count ≠ 0
  · rw [if_pos hr] at hle ⊢
    rw [if_pos hr, fitting_of_lt (mul_reciprocal_lt hsum)]
    simp only [ok_bind, pure_eq_ok]
    rw [Nat.min_eq_left (by omega)]
  · rw [if_neg hr] at hle ⊢
    rw [if_neg hr, hcount]
    simp only [ok_bind, pure_eq_ok]
    rw [Nat.min_eq_left (by omega)]

section Reading

variable {i sum : Nat}

theorem fetch_counts_exact (hi : i < d.cellCount) :
    fetch (exact d).counts i = .ok (d.regionAt i).count :=
  fetch_eq_ok.2 (getElem?_firstValues _ hi)

theorem fetch_reciprocals_exact (hi : i < d.cellCount) :
    fetch (exact d).reciprocals i = .ok (reciprocal (d.regionAt i).count) := by
  rw [fetch_eq_ok]
  change ((firstValues _ _).map reciprocal)[i]? = _
  rw [Array.getElem?_map, getElem?_firstValues _ hi]
  rfl

theorem isDegenerate_exact (hd : d.HasExtent) (hi : i < d.cellCount) :
    (exact d).isDegenerate i = .ok false := by
  have hpos := hd.count_regionAt_pos hi
  rw [isDegenerate, fetch_counts_exact hi, ok_bind]
  simp; omega

theorem average_exact (hd : d.HasExtent) (hi : i < d.cellCount)
    (hsum : sum ≤ 255 * (d.regionAt i).count) :
    (exact d).average i sum = .ok (fixedMean (d.regionAt i).count sum) :=
  average_of_fetch (fetch_counts_exact hi) (fetch_reciprocals_exact hi)
    (hd.count_regionAt_pos hi) hsum

/-- Above 65536 pixels the mean is a division, cut to 32 bits. -/
theorem average_exact_of_many (hi : i < d.cellCount) (hmany : 65536 < (d.regionAt i).count) :
    (exact d).average i sum = .ok (min (sum / (d.regionAt i).count) (2 ^ 32 - 1)) := by
  have hzero : reciprocal (d.regionAt i).count = 0 := Nat.div_eq_of_lt hmany
  rw [average, fetch_reciprocals_exact hi, ok_bind, hzero, if_neg fun hne => hne rfl,
    fetch_counts_exact hi]
  rfl

end Reading

end RegionMap

end GlyphMosaic
