import GlyphMosaic.Proofs.Runs
import GlyphMosaic.Proofs.Tiling.Regions

/-!
# Which region maps can be built

The pixel count of a cell is the product of two span lengths, and the map keeps it in 32 bits.  A
frame may have more pixels than that, and then a cell may as well.

* `RegionMap.ofDimensions_eq_error` : a map with a count that does not fit 32 bits cannot be built.
* `RegionMap.IsExactAt` : what a map holds for a cell is true of the cell's region.
* `RegionMap.build_isExact_or_overflow` : **after any history of builds and releases a map of an
  output and a source that have an extent is exact at every cell, or else has a count that does not
  fit**; no count of a source of fewer than `2 ^ 32` pixels is such.
* `RegionMap.build_square_overflows` : the map of one cell over `2 ^ 16` by `2 ^ 16` pixels has.
-/

namespace GlyphMosaic

namespace RegionMap

variable {d : Dimensions} {m : RegionMap}

/-! ### Counts that do not fit -/

section Overflow

variable {columns rows : Array Span} {row : Span} {counts : Array Nat} {e : Fault}

theorem push_fitting_fault {acc : Array Nat} {bits n : Nat}
    (h : acc.push <$> fitting bits n = .error e) : e = .overflow := by
  unfold fitting at h
  split at h
  · cases h
  · cases h; rfl

theorem appendCounts_fault (h : appendCounts columns row counts = .error e) : e = .overflow := by
  rw [appendCounts, ← Array.foldlM_toList] at h
  exact run_fault (fun acc column _ e' h' => push_fitting_fault h') h

theorem appendCounts_eq_error {column : Span} (hc : column ∈ columns)
    (hbig : 2 ^ 32 ≤ row.length * column.length) (counts : Array Nat) :
    appendCounts columns row counts = .error .overflow := by
  rw [appendCounts, ← Array.foldlM_toList]
  refine run_eq_error _ (fun acc column _ e' h' => push_fitting_fault h')
    (Array.mem_toList_iff.2 hc)
    (fun acc => ?_) counts
  rw [fitting_of_le hbig, map_error]

theorem countCells_eq_error {column : Span} (hc : column ∈ columns) (hr : row ∈ rows)
    (hbig : 2 ^ 32 ≤ row.length * column.length) : countCells columns rows = .error .overflow := by
  rw [countCells, ← Array.foldlM_toList]
  exact run_eq_error (fun acc row => appendCounts columns row acc)
    (fun acc row _ e' h' => appendCounts_fault h') (Array.mem_toList_iff.2 hr)
    (fun acc => appendCounts_eq_error hc hbig acc) #[]

end Overflow

/-- **A map with a count that does not fit 32 bits cannot be built.** -/
theorem ofDimensions_eq_error {column row : Nat} (hc : column < d.outputWidth.toNat)
    (hr : row < d.outputHeight.toNat) (hbig : 2 ^ 32 ≤ (Region.ofCell d column row).count) :
    ofDimensions d = .error .overflow := by
  have hcells : countCells (axisSpans d.sourceWidth.toNat d.outputWidth.toNat)
      (axisSpans d.sourceHeight.toNat d.outputHeight.toNat) = .error .overflow :=
    countCells_eq_error ((mem_axisSpans (by omega)).2 ⟨column, hc, rfl⟩)
      ((mem_axisSpans (by omega)).2 ⟨row, hr, rfl⟩) (by rwa [Nat.mul_comm])
  rw [ofDimensions_eq_map, hcells]
  rfl

theorem countCells_eq_ok {columns rows : Array Span} {counts : Array Nat}
    (h : countCells columns rows = .ok counts) : counts = cellCounts columns rows := by
  by_cases hfits : ∀ row ∈ rows, ∀ column ∈ columns, row.length * column.length < 2 ^ 32
  · rw [countCells_of_fits hfits] at h
    exact (Except.ok.inj h).symm
  · simp only [Classical.not_forall, Nat.not_lt] at hfits
    obtain ⟨row, hrow, column, hcolumn, hbig⟩ := hfits
    rw [countCells_eq_error hcolumn hrow hbig] at h
    cases h

/-! ### Histories -/

/-- What can be done to a map. -/
inductive Call where
  | build (d : Dimensions)
  | release

/-- The map after a call. -/
def after (m : RegionMap) : Call → Except Fault RegionMap
  | .build d => Prod.snd <$> m.build d
  | .release => .ok .empty

/-- The map after a history of calls. -/
def afterAll (m : RegionMap) (history : List Call) : Except Fault RegionMap :=
  history.foldlM after m

/-- A build leaves the map that was there or that of its dimensions. -/
theorem build_cases {rebuilt : Bool} {m' : RegionMap} (h : m.build d = .ok (rebuilt, m')) :
    m' = m ∨ ofDimensions d = .ok m' := by
  unfold RegionMap.build at h
  split at h
  · cases h; exact .inl rfl
  · obtain ⟨fresh, hfresh, h⟩ := bind_eq_ok.1 h
    cases h
    exact .inr hfresh

/-- A build leaves a current map, whatever it was built from. -/
theorem IsCurrent.of_build {rebuilt : Bool} {m' : RegionMap} (hm : m.IsCurrent)
    (h : m.build d = .ok (rebuilt, m')) : m'.IsCurrent := by
  rcases build_cases h with rfl | hfresh
  · exact hm
  · exact isCurrent_of_ofDimensions hfresh

theorem after_cases {m' : RegionMap} {call : Call} (h : m.after call = .ok m') :
    m' = m ∨ m' = .empty ∨ ∃ d, ofDimensions d = .ok m' := by
  cases call with
  | build d =>
    simp only [RegionMap.after] at h
    cases hbuild : m.build d with
    | error e => rw [hbuild] at h; cases h
    | ok answer =>
      rw [hbuild] at h
      cases h
      exact (build_cases hbuild).imp_right fun hfresh => .inr ⟨d, hfresh⟩
  | release => cases h; exact .inr (.inl rfl)

theorem IsCurrent.after {m' : RegionMap} (hm : m.IsCurrent) {call : Call}
    (h : m.after call = .ok m') : m'.IsCurrent := by
  rcases after_cases h with rfl | rfl | ⟨d, hfresh⟩
  · exact hm
  · exact isCurrent_empty
  · exact isCurrent_of_ofDimensions hfresh

theorem afterAll_cases {history : List Call} (h : empty.afterAll history = .ok m) :
    m = empty ∨ ∃ d, ofDimensions d = .ok m := by
  refine run_invariant (I := fun m => m = empty ∨ ∃ d, ofDimensions d = .ok m)
    (fun m call m' hm hcall => ?_) (.inl rfl) h
  rcases after_cases hcall with rfl | hm'
  · exact hm
  · exact hm'

/-- Every map that a history of builds and releases leads to is the one of the dimensions it
remembers. -/
theorem IsCurrent.afterAll {history : List Call} {m' : RegionMap} (hm : m.IsCurrent)
    (h : m.afterAll history = .ok m') : m'.IsCurrent :=
  run_invariant (fun _ _ _ h₀ hcall => h₀.after hcall) hm h

theorem IsCurrent.build_eq_error (hm : m.IsCurrent) {e : Fault} (h : ofDimensions d = .error e) :
    m.build d = .error e := by
  unfold RegionMap.build
  split
  · rename_i hdims
    rw [hm d hdims] at h
    cases h
  · rw [h]; rfl

/-! ### Exact cells -/

/-- What a map holds for a cell is true of its region: the spans of its column and its row, the
number of pixels they have together, which is not none, and for more than 65536 pixels of one level
that level as their mean. -/
structure IsExactAt (m : RegionMap) (d : Dimensions) (column row : Nat) : Prop where
  /-- The span of the column. -/
  columns : m.columns[column]? = some (axisSpan d.sourceWidth.toNat d.outputWidth.toNat column)
  /-- The span of the row. -/
  rows : m.rows[row]? = some (axisSpan d.sourceHeight.toNat d.outputHeight.toNat row)
  /-- The count is the product of their lengths. -/
  count : fetch m.counts (m.position column row) =
    .ok ((axisSpan d.sourceHeight.toNat d.outputHeight.toNat row).length *
      (axisSpan d.sourceWidth.toNat d.outputWidth.toNat column).length)
  /-- The cell has pixels. -/
  nonempty : m.isDegenerate (m.position column row) = .ok false
  /-- The mean of many equal levels is exact. -/
  average : ∀ v < 2 ^ 32, 65536 < (Region.ofCell d column row).count →
    m.average (m.position column row) (v * (Region.ofCell d column row).count) = .ok v

theorem isExactAt_exact (hd : d.HasExtent) {column row : Nat} (hc : column < d.outputWidth.toNat)
    (hr : row < d.outputHeight.toNat) : (exact d).IsExactAt d column row := by
  have hcolumns : (exact d).columns.size = d.outputWidth.toNat :=
    size_axisSpans_of_pos hd.outputWidth_pos
  have hposition : (exact d).position column row = row * d.outputWidth.toNat + column := by
    rw [position, hcolumns]
  have hi := Dimensions.position_lt hc hr
  have hregion := Dimensions.regionAt_position (d := d) row hc
  have hcount : fetch (exact d).counts (row * d.outputWidth.toNat + column) =
      .ok (Region.ofCell d column row).count := by
    rw [fetch_counts_exact hi, hregion]
  refine ⟨(getElem?_axisSpans hd.outputWidth_pos).2 ⟨hc, rfl⟩,
    (getElem?_axisSpans hd.outputHeight_pos).2 ⟨hr, rfl⟩, ?_, ?_, ?_⟩
  · rw [hposition, hcount]
    exact congrArg Except.ok (Nat.mul_comm _ _)
  · rw [hposition]
    exact isDegenerate_exact hd hi
  · intro v hv hmany
    have hpos : 0 < (Region.ofCell d column row).count := by omega
    rw [hposition, average_exact_of_many hi (by rwa [hregion]), hregion, Nat.mul_div_cancel _ hpos,
      Nat.min_eq_left (by omega)]

/-- **A region map is exact or cannot be built.**  After any history of builds and releases the map
of a source and an output that have an extent is built if the pixels of every cell fit 32 bits, and
is then exact at every cell, whether it was there or not; if those of some cell do not, it is not
built.  In a source of fewer than `2 ^ 32` pixels all do. -/
theorem build_isExact_or_overflow {history : List Call} (hm : empty.afterAll history = .ok m)
    (hd : d.HasExtent) :
    ((∀ column < d.outputWidth.toNat, ∀ row < d.outputHeight.toNat,
        (Region.ofCell d column row).count < 2 ^ 32) →
      ∃ rebuilt m', m.build d = .ok (rebuilt, m') ∧ m'.dims = some d ∧
        ∀ column < d.outputWidth.toNat, ∀ row < d.outputHeight.toNat, m'.IsExactAt d column row) ∧
    ((∃ column < d.outputWidth.toNat, ∃ row < d.outputHeight.toNat,
        2 ^ 32 ≤ (Region.ofCell d column row).count) → m.build d = .error .overflow) ∧
    (d.sourceWidth.toNat * d.sourceHeight.toNat < 2 ^ 32 →
      ∀ column row, (Region.ofCell d column row).count < 2 ^ 32) := by
  have hcurrent : m.IsCurrent := isCurrent_empty.afterAll hm
  refine ⟨fun hfits => ?_, ?_, fun hsource column row => ?_⟩
  · obtain ⟨rebuilt, hbuild⟩ := hcurrent.build_of_ofDimensions (ofDimensions_eq_of_fits hd hfits)
    exact ⟨rebuilt, exact d, hbuild, rfl, fun column hc row hr => isExactAt_exact hd hc hr⟩
  · rintro ⟨column, hc, row, hr, hbig⟩
    exact hcurrent.build_eq_error (ofDimensions_eq_error hc hr hbig)
  · exact Nat.lt_of_le_of_lt Region.count_ofCell_le hsource

/-- One cell over 512 by 512 pixels, after maps of other dimensions; the product of its count and a
reciprocal would give no mean, and the division does. -/
theorem build_isExact_or_overflow_large : ∃ m rebuilt m',
    empty.afterAll [.build ⟨3, 2, 5, 4⟩, .release, .build ⟨4, 4, 2, 2⟩] = .ok m ∧
    m.build ⟨512, 512, 1, 1⟩ = .ok (rebuilt, m') ∧ fetch m'.counts (m'.position 0 0) = .ok 262144 ∧
    m'.isDegenerate (m'.position 0 0) = .ok false ∧
    m'.average (m'.position 0 0) (200 * 262144) = .ok 200 := by
  obtain ⟨m, hm⟩ : ∃ m,
      empty.afterAll [.build ⟨3, 2, 5, 4⟩, .release, .build ⟨4, 4, 2, 2⟩] = .ok m := ⟨_, rfl⟩
  have hsource : (512 : UInt32).toNat * (512 : UInt32).toNat < 2 ^ 32 := by decide
  obtain ⟨hexact, -, hfits⟩ := build_isExact_or_overflow hm (d := ⟨512, 512, 1, 1⟩)
    ⟨by decide, by decide, by decide, by decide⟩
  obtain ⟨rebuilt, m', hbuild, -, hcells⟩ := hexact fun column _ row _ => hfits hsource column row
  have hcell := hcells 0 (by decide) 0 (by decide)
  exact ⟨m, rebuilt, m', hm, hbuild, hcell.count, hcell.nonempty,
    hcell.average 200 (by decide) (by decide)⟩

/-- The one cell over `2 ^ 16` by `2 ^ 16` pixels has `2 ^ 32` of them, and its map cannot be
built. -/
theorem build_square_overflows :
    Dimensions.HasExtent ⟨65536, 65536, 1, 1⟩ ∧
    (Region.ofCell ⟨65536, 65536, 1, 1⟩ 0 0).count = 2 ^ 32 ∧
    empty.build ⟨65536, 65536, 1, 1⟩ = .error .overflow := by
  have hcount : (Region.ofCell ⟨65536, 65536, 1, 1⟩ 0 0).count = 2 ^ 32 := by decide
  refine ⟨⟨by decide, by decide, by decide, by decide⟩, hcount, ?_⟩
  exact isCurrent_empty.build_eq_error
    (ofDimensions_eq_error (by decide) (by decide) (Nat.le_of_eq hcount.symm))

end RegionMap

end GlyphMosaic
