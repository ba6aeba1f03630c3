import GlyphMosaic.Proofs.Export.Rows
import GlyphMosaic.Proofs.RowMajor
import GlyphMosaic.Proofs.Runs

/-!
# The places of a grid

A grid is one array and two dimensions, which its edits change apart from one another.  They stay in
step, so that a place inside the dimensions is a position of the array and no two places are the
same one.

* `Grid.position_eq_iff` : places of one row width have positions of their own.
* `Grid.IsInStep` : what there is to be relied on, and `Grid.IsFull.isInStep` : a full grid has it.
* `Grid.IsFull.exists_afterEdit`, `Grid.IsFull.exists_afterEdits` : **edits inside the dimensions of
  the time are defined and keep a grid full.**
-/

namespace GlyphMosaic

namespace Grid

variable {g g' : Grid} {x y x' y' width height : UInt16} {c : Cell}

/-! ### Places -/

theorem position_mod (y : UInt16) (hx : x < g.width) : g.position x y % g.width.toNat = x.toNat :=
  Nat.mul_add_mod_of_lt (UInt16.lt_iff_toNat_lt.1 hx)

theorem position_div (y : UInt16) (hx : x < g.width) : g.position x y / g.width.toNat = y.toNat :=
  rowMajor_div y.toNat (UInt16.lt_iff_toNat_lt.1 hx)

theorem position_eq_iff (hx : x < g.width) (hx' : x' < g.width) :
    g.position x y = g.position x' y' ↔ x = x' ∧ y = y' := by
  constructor
  · intro h
    refine ⟨UInt16.toNat_inj.1 ?_, UInt16.toNat_inj.1 ?_⟩
    · rw [← position_mod y hx, h, position_mod y' hx']
    · rw [← position_div y hx, h, position_div y' hx']
  · rintro ⟨rfl, rfl⟩
    rfl

theorem IsFull.position_lt (hg : g.IsFull) (hx : x < g.width) (hy : y < g.height) :
    g.position x y < g.cells.size := by
  have hsize : g.cells.size = g.width.toNat * g.height.toNat := hg
  rw [hsize, Nat.mul_comm]
  exact rowMajor_lt (UInt16.lt_iff_toNat_lt.1 hx) (UInt16.lt_iff_toNat_lt.1 hy)

theorem IsFull.exists_get (hg : g.IsFull) (hx : x < g.width) (hy : y < g.height) :
    ∃ c, g.get x y = .ok c :=
  ⟨_, fetch_of_lt (hg.position_lt hx hy) .blank⟩

theorem IsFull.set_eq (hg : g.IsFull) (hx : x < g.width) (hy : y < g.height) (c : Cell) :
    g.set x y c = .ok { g with cells := g.cells.setIfInBounds (g.position x y) c } :=
  if_pos (hg.position_lt hx hy)

/-! ### Arrays and dimensions in step -/

/-- The array of a grid is in step with its dimensions. -/
structure IsInStep (g : Grid) : Prop where
  /-- There are as many cells as places. -/
  size : g.cells.size = g.width.toNat * g.height.toNat
  /-- Each place has a cell. -/
  get : ∀ x < g.width, ∀ y < g.height, ∃ c, g.get x y = .ok c
  /-- A cell that is set at a place is there, and those at other places are what they were. -/
  set : ∀ x < g.width, ∀ y < g.height, ∀ c, ∃ g', g.set x y c = .ok g' ∧
    g'.width = g.width ∧ g'.height = g.height ∧ g'.get x y = .ok c ∧
    ∀ x' < g.width, ∀ y' < g.height, (x', y') ≠ (x, y) → g'.get x' y' = g.get x' y'
  /-- Where rows have a width, there is one for each unit of height, one behind the other they are
  the array, and each has that width and the cells of its places. -/
  rows : 0 < g.width → g.rows.length = g.height.toNat ∧ g.rows.flatten = g.cells.toList ∧
    ∀ y < g.height, ∃ row, g.rows[y.toNat]? = some row ∧ row.length = g.width.toNat ∧
      ∀ x < g.width, ∃ c, row[x.toNat]? = some c ∧ g.get x y = .ok c

theorem IsFull.isInStep (hg : g.IsFull) : g.IsInStep where
  size := hg
  get _ hx _ hy := hg.exists_get hx hy
  set := by
    intro x hx y hy c
    refine ⟨_, hg.set_eq hx hy c, rfl, rfl, ?_, fun x' hx' y' _ hne => ?_⟩
    · exact fetch_eq_ok.2 (Array.getElem?_setIfInBounds_self_of_lt (hg.position_lt hx hy))
    · have hposition : g.position x y ≠ g.position x' y' := fun h => by
        obtain ⟨rfl, rfl⟩ := (position_eq_iff hx hx').1 h
        exact hne rfl
      change fetch (g.cells.setIfInBounds _ c) (g.position x' y') = fetch g.cells (g.position x' y')
      unfold fetch
      rw [Array.getElem?_setIfInBounds_ne hposition]
  rows := by
    intro hw
    have hcut := hg.isCutInto_rows (UInt16.lt_iff_toNat_lt.1 hw)
    refine ⟨hcut.length, flatten_rows g, fun y hy => ?_⟩
    obtain ⟨row, hrow, hlength, hcells⟩ := hcut.row y.toNat (UInt16.lt_iff_toNat_lt.1 hy)
    refine ⟨row, hrow, hlength, fun x hx => ?_⟩
    obtain ⟨c, hc⟩ := hg.exists_get hx hy
    exact ⟨c, (hcells x.toNat (UInt16.lt_iff_toNat_lt.1 hx)).trans (fetch_eq_ok.1 hc), hc⟩

/-! ### Edits -/

/-- What can be done to a grid. -/
inductive Edit where
  | set (x y : UInt16) (c : Cell)
  | reshape (width height : UInt16)
  | clear

/-- The grid after an edit. -/
def afterEdit (g : Grid) : Edit → Except Fault Grid
  | .set x y c => g.set x y c
  | .reshape width height => .ok (g.reshape width height)
  | .clear => .ok g.clear

/-- The grid after some edits. -/
def afterEdits (g : Grid) (edits : List Edit) : Except Fault Grid := edits.foldlM afterEdit g

/-- A cell that is set lies inside the dimensions that the grid has at that time. -/
def EditsFit : (width height : UInt16) → List Edit → Prop
  | _, _, [] => True
  | width, height, .set x y _ :: edits => (x < width ∧ y < height) ∧ EditsFit width height edits
  | _, _, .reshape width height :: edits => EditsFit width height edits
  | width, height, .clear :: edits => EditsFit width height edits

instance decidableEditsFit : (width height : UInt16) → (edits : List Edit) →
    Decidable (EditsFit width height edits)
  | _, _, [] => inferInstanceAs (Decidable True)
  | width, height, .set x y _ :: edits =>
    have := decidableEditsFit width height edits
    inferInstanceAs (Decidable ((x < width ∧ y < height) ∧ EditsFit width height edits))
  | _, _, .reshape width height :: edits => decidableEditsFit width height edits
  | width, height, .clear :: edits => decidableEditsFit width height edits

/-- An edit that is defined keeps a grid full. -/
theorem IsFull.afterEdit (hg : g.IsFull) {edit : Edit} (h : g.afterEdit edit = .ok g') :
    g'.IsFull := by
  cases edit with
  | set x y c => exact hg.set h
  | reshape width height => cases h; exact isFull_reshape width height
  | clear => cases h; exact hg.clear

theorem IsFull.afterEdits (hg : g.IsFull) {edits : List Edit} (h : g.afterEdits edits = .ok g') :
    g'.IsFull :=
  run_invariant (fun _ _ _ h₀ h₁ => h₀.afterEdit h₁) hg h

/-- Edits inside the dimensions are defined. -/
theorem IsFull.exists_afterEdits (hg : g.IsFull) {edits : List Edit}
    (hfit : EditsFit g.width g.height edits) : ∃ g', g.afterEdits edits = .ok g' := by
  induction edits generalizing g with
  | nil => exact ⟨g, rfl⟩
  | cons edit edits ih =>
    cases edit with
    | set x y c =>
      obtain ⟨⟨hx, hy⟩, hrest⟩ := hfit
      have hset := hg.set_eq hx hy c
      obtain ⟨g', h⟩ := ih (hg.set hset) hrest
      exact ⟨g', by rw [Grid.afterEdits, List.foldlM_cons, Grid.afterEdit, hset, ok_bind]; exact h⟩
    | reshape width height => exact ih (isFull_reshape width height) hfit
    | clear => exact ih hg.clear hfit

end Grid

end GlyphMosaic
