import GlyphMosaic.Proofs.Converter.Coherence
import GlyphMosaic.Proofs.Tiling.Maps

/-!
# Converters after any history

A call on a source of `2 ^ 32` pixels or more can fault.  One that does not keeps a converter as
coherent as any other call.

* `Reducer.size_of_reduce`, `Reducer.IsCoherent.of_reduce` : whatever a reducer drew, it drew all
  the cells and is coherent.
* `Converter.IsCoherent.of_after` : so it is with a converter and any call that does not fault.
* `Converter.HasHistory.isCoherent` : **every converter with a history is coherent.**
-/

namespace GlyphMosaic

/-! ### Reducers -/

theorem Planes.IsUniform.of_overwrite {p : Planes} (hp : p.IsUniform)
    (averages : Array (Channels UInt16)) : (p.overwrite averages).1.IsUniform := by
  simp only [Planes.overwrite, Planes.IsUniform, Channels.map, Planes.size_overlay]
  exact hp

theorem Mode.size_of_cells {mode : Mode} {tables : Tables} {p : Planes} {n : Nat}
    {cells : Array Cell} (h : mode.cells tables p n = .ok cells) : cells.size = n := by
  rw [Mode.cells_eq] at h
  split at h
  · cases h
    exact size_firstValues _ _
  · cases h

namespace Reducer

variable {s s' : Reducer} {d : Dimensions} {rebuilt : Bool}

theorem IsCoherent.of_prepare (hs : s.IsCoherent) (h : s.prepare d = .ok (rebuilt, s')) :
    s'.IsCoherent := by
  obtain ⟨⟨_, regions⟩, hbuild, h⟩ := bind_eq_ok.1 h
  cases h
  exact ⟨hs.regions.of_build hbuild, hs.planes⟩

theorem sum_eq_ok {pixels : Array Pixel} (h : s.sum pixels = .ok s') :
    ∃ area, s' = { s with area } := by
  unfold Reducer.sum at h
  split at h
  · cases h
  · obtain ⟨area, -, h⟩ := bind_eq_ok.1 h
    cases h
    exact ⟨area, rfl⟩

/-- Averaging leaves planes of one size, also at a fault. -/
theorem IsCoherent.average (hs : s.IsCoherent) (n : Nat) : (s.average n).1.IsCoherent := by
  have hplanes := (hs.planes.ensure n).1
  unfold Reducer.average
  dsimp only
  split
  · exact ⟨hs.regions, hplanes⟩
  · rename_i averages _
    exact ⟨hs.regions, hplanes.of_overwrite averages⟩

section Drawn

variable {mode : Mode} {tables : Tables} {pixels : Array Pixel} {n : Nat} {cells : Array Cell}

theorem size_of_reduce (h : s.reduce mode tables pixels n = (s', .ok cells)) : cells.size = n := by
  unfold Reducer.reduce at h
  split at h
  · cases h
  · obtain ⟨_, -, hcells⟩ := bind_eq_ok.1 (Prod.mk.inj h).2
    exact Mode.size_of_cells hcells

/-- Whatever a reducer drew, it is coherent. -/
theorem IsCoherent.of_reduce (hs : s.IsCoherent)
    (h : s.reduce mode tables pixels n = (s', .ok cells)) : s'.IsCoherent := by
  unfold Reducer.reduce at h
  split at h
  · cases h
  · rename_i summed hsum
    obtain ⟨area, rfl⟩ := sum_eq_ok hsum
    obtain ⟨rfl, -⟩ := Prod.mk.inj h
    have hsummed : IsCoherent { s with area } := ⟨hs.regions, hs.planes⟩
    exact hsummed.average n

end Drawn

end Reducer

/-! ### Converters -/

namespace Converter

variable {c c' d : Converter} {j : Job} {out out' : Array Cell} {outcome : Outcome} {r : Reading}

theorem reduce_of_draw {cells : Array Cell} (h : c.draw j = .ok (cells, d)) :
    ∃ rebuilt prepared reducer, c.reducer.prepare j.dimensions = .ok (rebuilt, prepared) ∧
      prepared.reduce c.mode c.currentTables j.pixels j.cellCount = (reducer, .ok cells) ∧
      d = { c.withTables with reducer } := by
  unfold Converter.draw at h
  obtain ⟨⟨rebuilt, prepared⟩, hprepare, h⟩ := bind_eq_ok.1 h
  dsimp only at h
  cases hreduce : prepared.reduce c.mode c.currentTables j.pixels j.cellCount with
  | mk reducer answer =>
    rw [hreduce] at h
    obtain ⟨_, rfl, h⟩ := bind_eq_ok.1 h
    cases h
    exact ⟨rebuilt, prepared, reducer, hprepare, hreduce, rfl⟩

theorem size_of_draw {cells : Array Cell} (h : c.draw j = .ok (cells, d)) :
    cells.size = j.cellCount := by
  obtain ⟨_, _, _, -, hreduce, -⟩ := reduce_of_draw h
  exact Reducer.size_of_reduce hreduce

section Steps

variable (hc : c.IsCoherent)

include hc

theorem IsCoherent.of_draw {cells : Array Cell} (h : c.draw j = .ok (cells, d)) :
    ∃ reducer, d = { c.withTables with reducer } ∧ reducer.IsCoherent := by
  obtain ⟨_, _, reducer, hprepare, hreduce, rfl⟩ := reduce_of_draw h
  exact ⟨reducer, rfl, (hc.reducer.of_prepare hprepare).of_reduce hreduce⟩

theorem IsCoherent.of_drawGrid (h : c.drawGrid j = .ok (outcome, d)) : d.IsCoherent := by
  unfold drawGrid at h
  split at h
  · cases h; exact hc
  · rename_i hroom
    split at h
    · cases h; exact hc
    · obtain ⟨⟨cells, drawn⟩, hdraw, h⟩ := bind_eq_ok.1 h
      have hsize := size_of_draw hdraw
      obtain ⟨reducer, rfl, hreducer⟩ := hc.of_draw hdraw
      cases h
      exact (hc.withReducer hreducer).withGrid hsize (by
        rw [hsize]
        exact Nat.not_lt.1 hroom)

theorem IsCoherent.settleOutcome (r : Reading) : (c.settleOutcome r outcome).IsCoherent := by
  cases outcome with
  | converted cells => exact hc.settle r
  | skipped reason => exact hc

theorem IsCoherent.of_convert_eq_ok (h : c.convert j r = .ok (outcome, c')) : c'.IsCoherent := by
  obtain ⟨⟨_, drawn⟩, hdraw, h⟩ := bind_eq_ok.1 h
  cases h
  exact (hc.of_drawGrid hdraw).settleOutcome r

theorem IsCoherent.of_convertInto_eq_ok (h : c.convertInto j out r = .ok (outcome, out', c')) :
    c'.IsCoherent := by
  unfold Converter.convertInto at h
  split at h
  · cases h; exact hc
  · split at h
    · cases h; exact hc
    · obtain ⟨⟨cells, drawn⟩, hdraw, h⟩ := bind_eq_ok.1 h
      obtain ⟨reducer, rfl, hreducer⟩ := hc.of_draw hdraw
      cases h
      exact (hc.withReducer hreducer).settle r

/-- Each call that does not fault keeps a converter coherent. -/
theorem IsCoherent.of_after {call : Call} (h : c.after call = .ok c') : c'.IsCoherent := by
  by_cases hcall : call.IsModerate
  · obtain ⟨d, hd, hcoherent⟩ := hc.after hcall
    obtain rfl : c' = d := Except.ok.inj (h.symm.trans hd)
    exact hcoherent
  · obtain ⟨outcome, hanswer⟩ := answer_of_after h
    -- only conversions have a source that can have too many pixels
    cases call with
    | convert job reading =>
      obtain ⟨_, hconvert, hanswer⟩ := bind_eq_ok.1 hanswer
      cases hanswer
      exact hc.of_convert_eq_ok hconvert
    | convertInto job out reading =>
      obtain ⟨_, hconvert, hanswer⟩ := bind_eq_ok.1 hanswer
      cases hanswer
      exact hc.of_convertInto_eq_ok hconvert
    | convertFrame frame reading =>
      obtain ⟨_, hconvert, hanswer⟩ := bind_eq_ok.1 hanswer
      cases hanswer
      exact hc.of_convert_eq_ok hconvert
    | _ => exact absurd trivial hcall

end Steps

/-! ### Histories -/

/-- **Every converter with a history is coherent.** -/
theorem HasHistory.isCoherent (hc : c.HasHistory) : c.IsCoherent := by
  obtain ⟨settings, start, history, hstart, hafter⟩ := hc
  exact run_invariant (fun _ _ _ h hcall => h.of_after hcall) (isCoherent_ofSettings hstart) hafter

end Converter

end GlyphMosaic
