import GlyphMosaic.Grid

/-!
# The rows of a grid

A grid is cut into rows of its width.  A full grid with a width comes out as its height says, and
two of them with the same rows are the same grid.

* `Grid.flatten_rows` : no cell is lost or doubled.
* `Grid.IsCutInto` : there are as many rows as the height says, each with as many cells as the width
  says, the cells of the grid at their places.
* `Grid.IsFull.isCutInto_rows` : so it is with the rows of a full grid.
* `Grid.IsFull.eq_of_rows` : the rows of a full grid tell the grid, unless there are none.
-/

namespace GlyphMosaic

theorem flatten_extracts {α : Type} (xs : Array α) (step k : Nat) :
    ((List.range k).map fun y => (xs.extract (y * step) ((y + 1) * step)).toList).flatten =
      (xs.extract 0 (k * step)).toList := by
  induction k with
  | zero => simp
  | succ k ih =>
    have hnext : k * step ≤ (k + 1) * step := Nat.mul_le_mul_right step k.le_succ
    rw [List.range_succ, List.map_append, List.flatten_append, ih, List.map_singleton,
      List.flatten_singleton, ← Array.toList_append, Array.extract_append_extract, Nat.zero_min,
      Nat.max_eq_right hnext]

namespace Grid

variable {g g' : Grid}

theorem flatten_rows (g : Grid) : g.rows.flatten = g.cells.toList := by
  unfold rows
  dsimp only
  generalize hstep : max g.width.toNat 1 = step
  have hpos : 0 < step := by omega
  -- the last piece may be a short one
  have hall : g.cells.size ≤ (g.cells.size + step - 1) / step * step := by
    have := Nat.lt_div_mul_add hpos (a := g.cells.size + step - 1)
    omega
  rw [flatten_extracts, Array.extract_eq_self_of_le hall]

/-- Rows of the cells of a grid, cut at its width. -/
structure IsCutInto (g : Grid) (rows : List (List Cell)) : Prop where
  /-- There are as many as the height says. -/
  length : rows.length = g.height.toNat
  /-- Each has as many cells as the width says, the cells of the grid at their places. -/
  row : ∀ y < g.height.toNat, ∃ row, rows[y]? = some row ∧ row.length = g.width.toNat ∧
    ∀ x < g.width.toNat, row[x]? = g.cells[y * g.width.toNat + x]?

theorem IsFull.isCutInto_rows (hg : g.IsFull) (hw : 0 < g.width.toNat) : g.IsCutInto g.rows := by
  have hsize : g.cells.size = g.width.toNat * g.height.toNat := hg
  have hcount : (g.cells.size + g.width.toNat - 1) / g.width.toNat = g.height.toNat := by
    rw [hsize, Nat.add_sub_assoc hw, Nat.mul_add_div hw, Nat.div_eq_of_lt (by omega), Nat.add_zero]
  have hrows : g.rows = (List.range g.height.toNat).map fun y =>
      (g.cells.extract (y * g.width.toNat) ((y + 1) * g.width.toNat)).toList := by
    rw [rows, Nat.max_eq_left hw, hcount]
  refine ⟨by rw [hrows, List.length_map, List.length_range], fun y hy => ?_⟩
  have hstop : (y + 1) * g.width.toNat ≤ g.cells.size := by
    rw [hsize, Nat.mul_comm]
    exact Nat.mul_le_mul_left _ hy
  have hlength : min ((y + 1) * g.width.toNat) g.cells.size - y * g.width.toNat =
      g.width.toNat := by
    rw [Nat.min_eq_left hstop, Nat.succ_mul, Nat.add_sub_cancel_left]
  refine ⟨(g.cells.extract (y * g.width.toNat) ((y + 1) * g.width.toNat)).toList, ?_, ?_,
    fun x hx => ?_⟩
  · rw [hrows, List.getElem?_map, List.getElem?_range hy]
    rfl
  · rw [Array.length_toList, Array.size_extract, hlength]
  · rw [Array.getElem?_toList, Array.getElem?_extract, hlength, if_pos hx]

/-- The rows of a full grid tell its height, its width and its cells, unless there are none. -/
theorem IsFull.eq_of_rows (hg : g.IsFull) (hg' : g'.IsFull) (hw : 0 < g.width.toNat)
    (hw' : 0 < g'.width.toNat) (hh : 0 < g.height.toNat) (h : g.rows = g'.rows) : g = g' := by
  have hcut := hg.isCutInto_rows hw
  have hcut' := hg'.isCutInto_rows hw'
  have hheight : g.height.toNat = g'.height.toNat := by rw [← hcut.length, h, hcut'.length]
  have hwidth : g.width.toNat = g'.width.toNat := by
    obtain ⟨row, hrow, hlength, -⟩ := hcut.row 0 hh
    obtain ⟨row', hrow', hlength', -⟩ := hcut'.row 0 (hheight ▸ hh)
    rw [h, hrow'] at hrow
    cases hrow
    exact hlength.symm.trans hlength'
  have hcells : g.cells = g'.cells := by
    rw [← Array.toList_inj, ← flatten_rows, h, flatten_rows]
  obtain ⟨width, height, cells⟩ := g
  obtain ⟨width', height', cells'⟩ := g'
  obtain rfl : width = width' := UInt16.toNat_inj.1 hwidth
  obtain rfl : height = height' := UInt16.toNat_inj.1 hheight
  exact congrArg _ hcells

end Grid

end GlyphMosaic
