import GlyphMosaic.Proofs.Converter.Conversions
import GlyphMosaic.Proofs.Converter.Histories
import GlyphMosaic.Proofs.Grid.Edits

/-!
# The grid of a converter

A converter draws into its own grid in place: the grid gets the dimensions of the output, its cells
are taken out, drawn over and put back.  While they are out the grid is not in step.

* `Converter.run_convertInPlace` : the steps in place come to a conversion at once, with the same
  faults.
* `Grid.stays_in_step` : **grids are in step whatever was done to them**, both those that are edited
  and those of converters.
-/

namespace GlyphMosaic

namespace Converter

/-! ### Conversions in place -/

theorem draw_withGrid (c : Converter) (g : Grid) (j : Job) :
    ({ c with grid := g } : Converter).draw j =
      (fun drawn => (drawn.1, { drawn.2 with grid := g })) <$> c.draw j := by
  unfold Converter.draw
  cases c.reducer.prepare j.dimensions with
  | error e => rfl
  | ok prepared =>
    obtain ⟨rebuilt, p⟩ := prepared
    -- neither the mode nor the tables are those of the grid
    have hreduce : p.reduce ({ c with grid := g } : Converter).mode
        ({ c with grid := g } : Converter).currentTables j.pixels j.cellCount =
      p.reduce c.mode c.currentTables j.pixels j.cellCount := rfl
    rw [ok_bind, ok_bind]
    dsimp only
    rw [hreduce]
    cases p.reduce c.mode c.currentTables j.pixels j.cellCount with
    | mk reducer answer => cases answer <;> rfl

/-- Cells are drawn over whatever the grid has meanwhile. -/
theorem run_drawOver (c : Converter) (g : Grid) (j : Job) (out : Array Cell) (r : Reading) :
    (drawOver j out r).run { c with grid := g } =
      (fun drawn => ((.converted out.size, drawn.1 ++ out.drop drawn.1.size),
        ({ drawn.2 with grid := g } : Converter).settle r)) <$> c.draw j := by
  unfold drawOver
  rw [StateT.run_bind, StateT.run_get, pure_eq_ok, ok_bind, StateT.run_bind, draw_withGrid]
  cases c.draw j <;> rfl

/-- **A conversion in place is the conversion**, with the same answer and the same faults. -/
theorem run_convertInPlace (c : Converter) (j : Job) (r : Reading) :
    (convertInPlace j r).run c = c.convert j r := by
  unfold convertInPlace Converter.convert drawGrid
  rw [StateT.run_bind, StateT.run_get, pure_eq_ok, ok_bind]
  by_cases hroom : c.capacity < j.cellCount
  · rw [if_pos hroom, if_pos hroom]
    rfl
  · rw [if_neg hroom, if_neg hroom]
    cases j.refusal? with
    | some reason => rfl
    | none =>
      -- the cells that are taken out are as many as are drawn, so that none of them is left
      have hreshaped : (c.grid.reshape j.outputWidth j.outputHeight).cells.size = j.cellCount :=
        Grid.isFull_reshape j.outputWidth j.outputHeight
      change ((drawOver j (c.grid.reshape j.outputWidth j.outputHeight).cells r).run
        { c with grid := ⟨j.outputWidth, j.outputHeight, #[]⟩ } >>= _) = _
      rw [run_drawOver]
      cases hdraw : c.draw j with
      | error e => rfl
      | ok drawn =>
        obtain ⟨cells, d⟩ := drawn
        have hsize : cells.size = j.cellCount := size_of_draw hdraw
        have hrest : (c.grid.reshape j.outputWidth j.outputHeight).cells.drop cells.size = #[] := by
          rw [hsize, ← hreshaped]
          simp
        rw [map_ok, ok_bind]
        dsimp only
        rw [hrest, Array.append_empty, hreshaped, ← hsize]
        rfl

end Converter

/-! ### Grids in step -/

namespace Grid

/-- **The array and the dimensions of a grid stay in step.**  Any edits of a new grid inside the
dimensions of the time are defined and leave a grid in step.  So is the grid of a converter after
any history, with no more cells than the converter has room for, and all conversions of the history
might have been made in place. -/
theorem stays_in_step :
    (∀ (width height : UInt16) (edits : List Edit), EditsFit width height edits →
      ∃ g, (blank width height).afterEdits edits = .ok g ∧ g.IsInStep) ∧
    ∀ c : Converter, c.HasHistory → c.grid.IsInStep ∧ c.grid.cells.size ≤ c.capacity ∧
      ∀ (j : Job) (r : Reading), (Converter.convertInPlace j r).run c = c.convert j r := by
  refine ⟨fun width height edits hfit => ?_, fun c hc => ?_⟩
  · obtain ⟨g, hg⟩ := (isFull_blank width height).exists_afterEdits hfit
    exact ⟨g, hg, ((isFull_blank width height).afterEdits hg).isInStep⟩
  · have hcoherent := hc.isCoherent
    exact ⟨hcoherent.grid_isFull.isInStep, hcoherent.grid_le, c.run_convertInPlace⟩

/-- A cell of a grid that shrank and grew again, and the grid of a converter that drew one row of
two cells. -/
theorem stays_in_step_regrown : ∃ g start c,
    (blank 3 2).afterEdits [.set 2 1 ⟨'#', ⟨1, 2, 3⟩⟩, .reshape 1 1, .clear, .reshape 2 3] = .ok g ∧
    (∃ g', g.set 1 2 ⟨'@', ⟨4, 5, 6⟩⟩ = .ok g' ∧ g'.get 1 2 = .ok ⟨'@', ⟨4, 5, 6⟩⟩ ∧
      g'.get 0 2 = g.get 0 2) ∧
    Converter.ofSettings .default = .ok start ∧
    (Converter.convertInPlace Converter.unevenJob Converter.stillReading).run start =
      .ok (.converted 2, c) ∧
    c.grid.cells.size = 2 ∧ c.grid.rows.length = 1 := by
  obtain ⟨g, hg, hwidth, hheight⟩ : ∃ g,
      (blank 3 2).afterEdits [.set 2 1 ⟨'#', ⟨1, 2, 3⟩⟩, .reshape 1 1,
        .clear, .reshape 2 3] = .ok g ∧
        g.width = 2 ∧ g.height = 3 := ⟨_, rfl, rfl, rfl⟩
  obtain ⟨g₁, hg₁, hstep⟩ :=
    stays_in_step.1 3 2 [.set 2 1 ⟨'#', ⟨1, 2, 3⟩⟩, .reshape 1 1, .clear, .reshape 2 3]
      (by decide)
  obtain rfl : g = g₁ := Except.ok.inj (hg.symm.trans hg₁)
  have hset := hstep.set
  rw [hwidth, hheight] at hset
  obtain ⟨g', hg', -, -, hthere, hothers⟩ := hset 1 (by decide) 2 (by decide) ⟨'@', ⟨4, 5, 6⟩⟩
  obtain ⟨start, hstart, hcapacity⟩ : ∃ start, Converter.ofSettings .default = .ok start ∧
      start.capacity = 19200 := ⟨_, rfl, rfl⟩
  have hroom : Converter.unevenJob.cellCount ≤ start.capacity := by
    rw [hcapacity]
    decide
  obtain ⟨c, hconvert, hgrid, -⟩ := (Converter.isCoherent_ofSettings hstart).convert hroom rfl
    (Job.isModerate_of_lt (by decide)) Converter.stillReading
  have hc : c.HasHistory :=
    ⟨.default, start, [.convert Converter.unevenJob Converter.stillReading], hstart, by
    rw [Converter.afterAll, List.foldlM_cons, Converter.after, Converter.answer, hconvert]
    rfl⟩
  obtain ⟨hdrawn, -, -⟩ := stays_in_step.2 c hc
  have hplace := (stays_in_step.2 start ⟨.default, start, [], hstart, rfl⟩).2.2
  have hsize := hdrawn.size
  have hrows := hdrawn.rows
  rw [hgrid] at hsize hrows
  exact ⟨g, start, c, hg, ⟨g', hg', hthere, hothers 0 (by decide) 2 (by decide) (by decide)⟩,
    hstart, (hplace _ _).trans hconvert, hgrid ▸ hsize,
    hgrid ▸ (hrows (show (0 : UInt16) < 2 by decide)).1⟩

end Grid

end GlyphMosaic
