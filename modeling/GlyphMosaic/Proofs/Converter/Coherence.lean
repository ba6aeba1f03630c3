import GlyphMosaic.Converter.Call
import GlyphMosaic.Proofs.Reduction.Reference
import GlyphMosaic.Proofs.Timing.Counts

/-!
# Coherent converters

A converter reuses its tables, its region map, its summed-area tables, its planes and its grid.  It
is coherent if that makes no difference to what it draws.

* `Tables.ensure_of_ofCharset` : tables are kept only where building them anew would give the same
  ones.
* `Converter.IsCoherent` : the invariant.
* `Converter.IsCoherent.draw` : **a coherent converter draws the cells of the regions** of a job
  that is not refused, with the tables of its settings.
* `Converter.Becomes` : all that a call can leave behind, whatever its source is.
* `Converter.IsCoherent.after` : each call on a source of fewer than `2 ^ 32` pixels is defined and
  keeps a converter coherent, and so does a whole history (`Converter.IsCoherent.afterAll`).
-/

namespace GlyphMosaic

/-! ### Tables -/

namespace Palette

theorem glyphs_of_ofString {charset : String} {p : Palette} (h : ofString charset = .ok p) :
    p.glyphs = charset.toList.toArray := by
  unfold ofString at h
  dsimp only at h
  split at h
  · cases h
  · split at h
    · cases h
    · cases h; rfl

end Palette

namespace Tables

variable {t : Tables} {charset : String} {gamma : Binary32}

theorem ofCharset_eq_ok : ofCharset charset gamma = .ok t ↔
    Palette.ofString charset = .ok t.palette ∧ t.curve = .ofGamma gamma := by
  unfold ofCharset
  cases h : Palette.ofString charset with
  | error refusal => exact ⟨fun h => (nomatch h), fun h => (nomatch h.1)⟩
  | ok palette =>
    obtain ⟨p, curve⟩ := t
    constructor
    · intro ht
      cases ht
      exact ⟨rfl, rfl⟩
    · rintro ⟨hp, rfl⟩
      cases hp
      rfl

/-- Tables that were built for some charset and exponent are as good as new ones. -/
theorem ensure_of_ofCharset {charset₀ : String} {gamma₀ : Binary32}
    (ht : ofCharset charset₀ gamma₀ = .ok t) (charset : String) (gamma : Binary32) :
    Prod.snd <$> t.ensure charset gamma = ofCharset charset gamma := by
  unfold ensure
  split
  · -- they were built for just these
    rename_i hfor
    obtain ⟨hp, hcurve⟩ := ofCharset_eq_ok.1 ht
    simp only [isFor, Palette.glyphs_of_ofString hp, hcurve, Bool.and_eq_true, beq_iff_eq,
      String.toList_inj, ToneCurve.ofGamma] at hfor
    obtain ⟨rfl, rfl⟩ := hfor
    exact ht.symm
  · cases ofCharset charset gamma <;> rfl

end Tables

/-! ### Jobs -/

namespace Job

variable {j : Job}

theorem refusal?_eq_none : j.refusal? = none ↔ j.pixels.size ≠ 0 ∧
    ¬(j.sourceWidth = 0 ∨ j.sourceHeight = 0 ∨ j.outputWidth = 0 ∨ j.outputHeight = 0) ∧
    j.sourceWidth.toNat * j.sourceHeight.toNat ≤ j.pixels.size := by
  unfold refusal?
  split
  · simp_all
  · split
    · simp_all
    · split <;> simp_all

theorem refusal?_eq_none_of_pos (hsw : 0 < j.sourceWidth.toNat) (hsh : 0 < j.sourceHeight.toNat)
    (how : 0 < j.outputWidth.toNat) (hoh : 0 < j.outputHeight.toNat)
    (hsize : j.sourceWidth.toNat * j.sourceHeight.toNat ≤ j.pixels.size) : j.refusal? = none := by
  have hcount := Nat.mul_pos hsw hsh
  refine refusal?_eq_none.2 ⟨by omega, ?_, hsize⟩
  simp only [← UInt32.toNat_inj, ← UInt16.toNat_inj, UInt32.toNat_zero, UInt16.toNat_zero]
  omega

/-- The source of the job has fewer pixels than fit 32 bits. -/
def IsModerate (j : Job) : Prop := Converter.IsModerate j.pixels j.sourceWidth j.sourceHeight

theorem isModerate_of_lt (h : j.sourceWidth.toNat * j.sourceHeight.toNat < 2 ^ 32) : j.IsModerate :=
  Nat.lt_of_le_of_lt (Nat.min_le_right _ _) h

/-- The means of the region of a cell, as the entries of the planes. -/
def levels (j : Job) (i : Nat) : Channels UInt16 :=
  (j.dimensions.regionAt i).levels j.pixels j.sourceWidth.toNat

theorem outputWidth_dimensions (j : Job) :
    j.dimensions.outputWidth.toNat = j.outputWidth.toNat := by
  simp [dimensions]

theorem outputHeight_dimensions (j : Job) :
    j.dimensions.outputHeight.toNat = j.outputHeight.toNat := by
  simp [dimensions]

theorem cellCount_dimensions (j : Job) : j.dimensions.cellCount = j.cellCount := by
  simp [Dimensions.cellCount, dimensions, cellCount, Grid.area, Nat.mul_comm]

theorem isModerate_dimensions (h : j.refusal? = none) (hj : j.IsModerate) :
    j.dimensions.IsModerate := by
  obtain ⟨-, hzero, hsize⟩ := refusal?_eq_none.1 h
  simp only [not_or, ← UInt32.toNat_inj, ← UInt16.toNat_inj] at hzero
  obtain ⟨hsw, hsh, how, hoh⟩ := hzero
  refine ⟨Nat.pos_of_ne_zero hsw, Nat.pos_of_ne_zero hsh, ?_, ?_, ?_⟩
  · exact j.outputWidth_dimensions ▸ Nat.pos_of_ne_zero how
  · exact j.outputHeight_dimensions ▸ Nat.pos_of_ne_zero hoh
  · unfold IsModerate Converter.IsModerate at hj
    change j.sourceWidth.toNat * j.sourceHeight.toNat < 2 ^ 32
    omega

theorem size_cells (j : Job) (tables : Tables) :
    (Region.cells tables j.pixels j.dimensions).size = j.cellCount := by
  rw [Region.size_cells, cellCount_dimensions]

theorem getElem?_cells {column row : Nat} (hc : column < j.outputWidth.toNat)
    (hr : row < j.outputHeight.toNat) (tables : Tables) :
    (Region.cells tables j.pixels j.dimensions)[row * j.outputWidth.toNat + column]? =
      some ((Region.ofCell j.dimensions column row).cell tables j.pixels j.sourceWidth.toNat) := by
  have hcell := Region.getElem?_cells tables j.pixels
    (j.outputWidth_dimensions ▸ hc) (j.outputHeight_dimensions ▸ hr)
  rwa [outputWidth_dimensions] at hcell

end Job

/-! ### The invariant -/

namespace Converter

/-- What earlier calls left behind makes no difference. -/
structure IsCoherent (c : Converter) : Prop where
  /-- The charset is a palette, and the tables are those of the settings. -/
  tables : Tables.ofCharset c.settings.charset c.settings.gamma = .ok c.currentTables
  /-- So it is with what is reused from frame to frame. -/
  reducer : c.reducer.IsCoherent
  /-- The grid has a cell for every place. -/
  grid_isFull : c.grid.IsFull
  /-- There is room for them. -/
  grid_le : c.grid.cells.size ≤ c.capacity
  /-- The counts of frames fit their words, and so does their difference. -/
  meter : c.meter.IsSound

variable {c : Converter}

theorem toNat_le_frameLimit (n : UInt32) : n.toNat ≤ FrameStats.frameLimit :=
  Nat.le_sub_one_of_lt n.toNat_lt

theorem isCoherent_ofSettings {settings : Settings} (h : ofSettings settings = .ok c) :
    c.IsCoherent := by
  unfold ofSettings at h
  cases hp : Palette.ofString settings.charset with
  | error refusal => rw [hp] at h; cases h
  | ok palette =>
    have ht : Tables.ofCharset settings.charset settings.gamma =
        .ok ⟨palette, .ofGamma settings.gamma⟩ := Tables.ofCharset_eq_ok.2 ⟨hp, rfl⟩
    rw [hp] at h
    cases h
    refine ⟨?_, Reducer.isCoherent_empty, Grid.isFull_blank _ _, ?_,
      (Meter.isSound_ofWarmup (toNat_le_frameLimit _)).setEnabled _⟩
    · simp only [currentTables, ht]
    · simp [Grid.blank, Grid.area, Settings.maxCells]

section Steps

variable (hc : c.IsCoherent)

include hc

theorem IsCoherent.init : c.init.IsCoherent := by
  unfold Converter.init
  split
  · exact hc
  · refine ⟨hc.tables, hc.reducer, hc.grid_isFull.clear, ?_, hc.meter⟩
    rw [Grid.clear, Array.size_replicate]
    exact hc.grid_le

theorem IsCoherent.shutdown : c.shutdown.IsCoherent := by
  unfold Converter.shutdown
  split
  · exact ⟨hc.tables, Reducer.isCoherent_empty, hc.grid_isFull, hc.grid_le, hc.meter⟩
  · exact hc

/-- A palette is set as if the tables were always built anew. -/
theorem IsCoherent.setPalette_eq (charset : String) (gamma : Binary32) :
    c.setPalette charset gamma = (fun t =>
      { c with tables := some t, settings := { c.settings with charset, gamma } }) <$>
        Tables.ofCharset charset gamma := by
  unfold Converter.setPalette
  cases ht : c.tables with
  | none => cases Tables.ofCharset charset gamma <;> rfl
  | some t =>
    -- the tables that are there are those of the settings, by coherence
    have hcurrent : c.currentTables = t := by rw [currentTables, ht]
    dsimp only
    rw [Tables.ensure_of_ofCharset (hcurrent ▸ hc.tables)]
    cases Tables.ofCharset charset gamma <;> rfl

theorem IsCoherent.setPalette {charset : String} {gamma : Binary32} {c' : Converter}
    (h : c.setPalette charset gamma = .ok c') : c'.IsCoherent := by
  rw [hc.setPalette_eq] at h
  cases ht : Tables.ofCharset charset gamma with
  | error refusal => rw [ht] at h; cases h
  | ok t =>
    rw [ht] at h
    cases h
    exact ⟨ht, hc.reducer, hc.grid_isFull, hc.grid_le, hc.meter⟩

theorem IsCoherent.settle (r : Reading) : (c.settle r).IsCoherent :=
  ⟨hc.tables, hc.reducer, hc.grid_isFull, hc.grid_le, hc.meter.record _ r⟩

theorem IsCoherent.setVectorized (on : Bool) : (c.setVectorized on).IsCoherent :=
  ⟨hc.tables, hc.reducer, hc.grid_isFull, hc.grid_le, hc.meter⟩

theorem IsCoherent.setBenchmark (on : Bool) : (c.setBenchmark on).IsCoherent :=
  ⟨hc.tables, hc.reducer, hc.grid_isFull, hc.grid_le, hc.meter.setEnabled on⟩

theorem IsCoherent.withReducer {reducer : Reducer} (hr : reducer.IsCoherent) :
    ({ c.withTables with reducer } : Converter).IsCoherent :=
  ⟨hc.tables, hr, hc.grid_isFull, hc.grid_le, hc.meter⟩

theorem IsCoherent.withGrid {g : Grid} (hg : g.IsFull) (hle : g.cells.size ≤ c.capacity) :
    ({ c with grid := g } : Converter).IsCoherent :=
  ⟨hc.tables, hc.reducer, hg, hle, hc.meter⟩

/-! ### Drawing -/

variable {j : Job}

/-- **A coherent converter draws the cells of the regions**, with the tables of its settings, from
the levels of the job. -/
theorem IsCoherent.draw (h : j.refusal? = none) (hj : j.IsModerate) :
    ∃ reducer, c.draw j = .ok (Region.cells c.currentTables j.pixels j.dimensions,
      { c.withTables with reducer }) ∧ reducer.IsCoherent ∧
      reducer.planes.Holds j.levels j.cellCount := by
  have hd := Job.isModerate_dimensions h hj
  obtain ⟨rebuilt, hprepare⟩ := hc.reducer.prepare hd
  obtain ⟨reducer, hreduce, hcoherent, hholds⟩ := hc.reducer.reduce hd c.mode c.currentTables
    (Job.refusal?_eq_none.1 h).2.2
  rw [Job.cellCount_dimensions] at hreduce hholds
  refine ⟨reducer, ?_, hcoherent, hholds⟩
  rw [Converter.draw, hprepare]
  simp only [ok_bind, hreduce]
  rfl

end Steps

/-! ### Conversions -/

section Conversions

variable {c' d : Converter} {j : Job} {out out' : Array Cell} {outcome : Outcome} {r : Reading}

theorem draw_eq_ok {cells : Array Cell} (h : c.draw j = .ok (cells, d)) :
    ∃ reducer, d = { c.withTables with reducer } := by
  unfold Converter.draw at h
  obtain ⟨prepared, -, h⟩ := bind_eq_ok.1 h
  obtain ⟨answer, -, h⟩ := bind_eq_ok.1 h
  cases h
  exact ⟨_, rfl⟩

theorem drawGrid_cases (h : c.drawGrid j = .ok (outcome, d)) :
    (outcome.isConverted = false ∧ d = c) ∨
      ∃ (cells : Array Cell) (reducer : Reducer), outcome = .converted cells.size ∧
        d = { c.withTables with grid := ⟨j.outputWidth, j.outputHeight, cells⟩, reducer } := by
  unfold drawGrid at h
  split at h
  · cases h; exact .inl ⟨rfl, rfl⟩
  · split at h
    · cases h; exact .inl ⟨rfl, rfl⟩
    · obtain ⟨⟨cells, drawn⟩, hdraw, h⟩ := bind_eq_ok.1 h
      obtain ⟨reducer, rfl⟩ := draw_eq_ok hdraw
      cases h
      exact .inr ⟨cells, reducer, rfl, rfl⟩

theorem convert_cases (h : c.convert j r = .ok (outcome, c')) :
    (outcome.isConverted = false ∧ c' = c) ∨
      ∃ (cells : Array Cell) (reducer : Reducer), outcome = .converted cells.size ∧
        c' = ({ c.withTables with
          grid := ⟨j.outputWidth, j.outputHeight, cells⟩, reducer } : Converter).settle r := by
  obtain ⟨⟨outcome', drawn⟩, hdraw, h⟩ := bind_eq_ok.1 h
  cases h
  obtain ⟨hskipped, rfl⟩ | ⟨cells, reducer, rfl, rfl⟩ := drawGrid_cases hdraw
  · cases outcome with
    | skipped reason => exact .inl ⟨rfl, rfl⟩
    | converted cells => cases hskipped
  · exact .inr ⟨cells, reducer, rfl, rfl⟩

theorem convertInto_cases (h : c.convertInto j out r = .ok (outcome, out', c')) :
    (outcome.isConverted = false ∧ c' = c) ∨
      ∃ (cells : Array Cell) (reducer : Reducer), outcome = .converted cells.size ∧
        c' = ({ c.withTables with reducer } : Converter).settle r := by
  unfold Converter.convertInto at h
  split at h
  · cases h; exact .inl ⟨rfl, rfl⟩
  · split at h
    · cases h; exact .inl ⟨rfl, rfl⟩
    · obtain ⟨⟨cells, drawn⟩, hdraw, h⟩ := bind_eq_ok.1 h
      obtain ⟨reducer, rfl⟩ := draw_eq_ok hdraw
      cases h
      exact .inr ⟨cells, reducer, rfl, rfl⟩

theorem convert_of_lt (hroom : c.capacity < j.cellCount) (r : Reading) :
    c.convert j r = .ok (.skipped .outputTooSmall, c) := by
  rw [Converter.convert, drawGrid, if_pos hroom]
  rfl

theorem convert_of_refusal {reason : SkipReason} (hroom : j.cellCount ≤ c.capacity)
    (h : j.refusal? = some reason) (r : Reading) : c.convert j r = .ok (.skipped reason, c) := by
  rw [Converter.convert, drawGrid, if_neg (Nat.not_lt.2 hroom), h]
  rfl

theorem convertInto_of_refusal {reason : SkipReason} (h : j.refusal? = some reason) (r : Reading) :
    c.convertInto j out r = .ok (.skipped reason, out, c) := by
  rw [Converter.convertInto, h]

theorem convertInto_of_lt (h : j.refusal? = none) (hroom : out.size < j.cellCount) (r : Reading) :
    c.convertInto j out r = .ok (.skipped .outputTooSmall, out, c) := by
  rw [Converter.convertInto, h]
  exact if_pos hroom

variable (hc : c.IsCoherent)

include hc

theorem IsCoherent.convert (hroom : j.cellCount ≤ c.capacity) (h : j.refusal? = none)
    (hj : j.IsModerate) (r : Reading) :
    ∃ c', c.convert j r = .ok (.converted j.cellCount, c') ∧
      c'.grid = ⟨j.outputWidth, j.outputHeight,
        Region.cells c.currentTables j.pixels j.dimensions⟩ ∧ c'.IsCoherent ∧
      c'.reducer.planes.Holds j.levels j.cellCount := by
  obtain ⟨reducer, hdraw, hreducer, hholds⟩ := hc.draw h hj
  have hsize := j.size_cells c.currentTables
  have hfull : Grid.IsFull ⟨j.outputWidth, j.outputHeight,
      Region.cells c.currentTables j.pixels j.dimensions⟩ := hsize
  refine ⟨({ c.withTables with reducer, grid := ⟨j.outputWidth, j.outputHeight,
    Region.cells c.currentTables j.pixels j.dimensions⟩ } : Converter).settle r, ?_, rfl,
    ((hc.withReducer hreducer).withGrid hfull (Nat.le_trans (Nat.le_of_eq hsize) hroom)).settle r,
    hholds⟩
  rw [Converter.convert, drawGrid, if_neg (Nat.not_lt.2 hroom), h]
  simp only [hdraw, ok_bind, pure_eq_ok, hsize]
  rfl

theorem IsCoherent.convertInto (h : j.refusal? = none) (hroom : j.cellCount ≤ out.size)
    (hj : j.IsModerate) (r : Reading) :
    ∃ c', c.convertInto j out r = .ok (.converted j.cellCount,
        Region.cells c.currentTables j.pixels j.dimensions ++ out.drop j.cellCount, c') ∧
      c'.grid = c.grid ∧ c'.IsCoherent ∧ c'.reducer.planes.Holds j.levels j.cellCount := by
  obtain ⟨reducer, hdraw, hreducer, hholds⟩ := hc.draw h hj
  have hsize := j.size_cells c.currentTables
  refine ⟨({ c.withTables with reducer } : Converter).settle r, ?_, rfl,
    (hc.withReducer hreducer).settle r, hholds⟩
  rw [Converter.convertInto, h]
  simp only [if_neg (Nat.not_lt.2 hroom), hdraw, ok_bind, pure_eq_ok, hsize]

/-- Whatever becomes of a job, its converter is coherent afterwards; if the job is converted, the
grid has the cells of its regions. -/
theorem IsCoherent.of_convert (hj : j.IsModerate) (r : Reading) :
    ∃ outcome c', c.convert j r = .ok (outcome, c') ∧ c'.IsCoherent ∧
      (outcome.isConverted → j.refusal? = none ∧
        c'.grid.cells = Region.cells c.currentTables j.pixels j.dimensions) := by
  by_cases hroom : j.cellCount ≤ c.capacity
  · cases h : j.refusal? with
    | some reason => exact ⟨_, c, convert_of_refusal hroom h r, hc, fun hconv => nomatch hconv⟩
    | none =>
      obtain ⟨c', hconvert, hgrid, hc', -⟩ := hc.convert hroom h hj r
      exact ⟨_, c', hconvert, hc', fun _ => ⟨rfl, by rw [hgrid]⟩⟩
  · exact ⟨_, c, convert_of_lt (Nat.lt_of_not_le hroom) r, hc, fun hconv => nomatch hconv⟩

theorem IsCoherent.of_convertInto (hj : j.IsModerate) (out : Array Cell) (r : Reading) :
    ∃ outcome out' c', c.convertInto j out r = .ok (outcome, out', c') ∧ c'.IsCoherent ∧
      (outcome.isConverted → j.refusal? = none ∧
        out' = Region.cells c.currentTables j.pixels j.dimensions ++ out.drop j.cellCount) := by
  cases h : j.refusal? with
  | some reason => exact ⟨_, out, c, convertInto_of_refusal h r, hc, fun hconv => nomatch hconv⟩
  | none =>
    by_cases hroom : j.cellCount ≤ out.size
    · obtain ⟨c', hconvert, -, hc', -⟩ := hc.convertInto h hroom hj r
      exact ⟨_, _, c', hconvert, hc', fun _ => ⟨rfl, rfl⟩⟩
    · exact ⟨_, out, c, convertInto_of_lt h (Nat.lt_of_not_le hroom) r, hc,
        fun hconv => nomatch hconv⟩

end Conversions

/-! ### Calls -/

section Calls

variable {c' : Converter} {call : Call}

theorem answer_of_after (h : c.after call = .ok c') :
    ∃ outcome, c.answer call = .ok (outcome, c') := by
  unfold Converter.after at h
  cases hanswer : c.answer call with
  | error e => rw [hanswer] at h; cases h
  | ok answer =>
    rw [hanswer] at h
    cases h
    exact ⟨answer.1, rfl⟩

theorem setPalette_eq_ok {charset : String} {gamma : Binary32}
    (h : c.setPalette charset gamma = .ok c') :
    ∃ tables, c' = { c with tables, settings := { c.settings with charset, gamma } } := by
  unfold Converter.setPalette at h
  cases ht : c.tables <;>
  · rw [ht] at h
    obtain ⟨tables, -, h⟩ := bind_eq_ok.1 h
    cases h
    exact ⟨_, rfl⟩

/-- All that a call can leave behind. -/
inductive Becomes (c : Converter) : Converter → Prop where
  /-- There was nothing to do. -/
  | kept : Becomes c c
  | ready : Becomes c { c.withTables with grid := c.grid.clear, initialized := true }
  | stopped : Becomes c { c with initialized := false, reducer := .empty }
  /-- A frame was drawn; its cells may have gone elsewhere. -/
  | drawn (grid : Grid) (reducer : Reducer) (r : Reading) :
    Becomes c (({ c.withTables with grid, reducer } : Converter).settle r)
  | palette (tables : Option Tables) (charset : String) (gamma : Binary32) :
    Becomes c { c with tables, settings := { c.settings with charset, gamma } }
  | vectorized (on : Bool) : Becomes c (c.setVectorized on)
  | benchmark (on : Bool) : Becomes c (c.setBenchmark on)
  | warmup (n : UInt32) : Becomes c (c.setWarmup n)
  | reset : Becomes c c.resetStats

theorem becomes_of_convert {j : Job} {outcome : Outcome} {r : Reading}
    (h : c.convert j r = .ok (outcome, c')) : c.Becomes c' := by
  obtain ⟨-, rfl⟩ | ⟨cells, reducer, -, rfl⟩ := convert_cases h
  · exact .kept
  · exact .drawn _ reducer r

theorem becomes_of_convertInto {j : Job} {out out' : Array Cell} {outcome : Outcome} {r : Reading}
    (h : c.convertInto j out r = .ok (outcome, out', c')) : c.Becomes c' := by
  obtain ⟨-, rfl⟩ | ⟨cells, reducer, -, rfl⟩ := convertInto_cases h
  · exact .kept
  · exact .drawn c.grid reducer r

/-- A call leaves one of these behind. -/
theorem becomes_of_after (h : c.after call = .ok c') : c.Becomes c' := by
  obtain ⟨_, h⟩ := answer_of_after h
  cases call with
  | init =>
    cases h
    unfold Converter.init
    split
    · exact .kept
    · exact .ready
  | shutdown =>
    cases h
    unfold Converter.shutdown
    split
    · exact .stopped
    · exact .kept
  | convert job reading =>
    obtain ⟨_, hconvert, h⟩ := bind_eq_ok.1 h
    cases h
    exact becomes_of_convert hconvert
  | convertInto job out reading =>
    obtain ⟨_, hconvert, h⟩ := bind_eq_ok.1 h
    cases h
    exact becomes_of_convertInto hconvert
  | convertFrame frame reading =>
    obtain ⟨_, hconvert, h⟩ := bind_eq_ok.1 h
    cases h
    exact becomes_of_convert hconvert
  | setPalette charset gamma =>
    unfold Converter.answer at h
    cases hset : c.setPalette charset gamma with
    | error _ =>
      simp only [hset] at h
      cases h
      exact .kept
    | ok _ =>
      simp only [hset] at h
      cases h
      obtain ⟨tables, rfl⟩ := setPalette_eq_ok hset
      exact .palette tables charset gamma
  | setVectorized on =>
    cases h
    exact .vectorized on
  | setBenchmark on =>
    cases h
    exact .benchmark on
  | setWarmup n =>
    cases h
    exact .warmup n
  | resetStats =>
    cases h
    exact .reset

theorem Becomes.capacity (h : c.Becomes c') : c'.capacity = c.capacity := by
  cases h <;> rfl

theorem capacity_afterAll {history : List Call} (h : c.afterAll history = .ok c') :
    c'.capacity = c.capacity :=
  run_invariant (I := fun d => d.capacity = c.capacity)
    (fun _ _ _ hd hcall => (becomes_of_after hcall).capacity.trans hd) rfl h

end Calls

/-! ### Histories -/

/-- Each call on a moderate source is defined and keeps a converter coherent. -/
theorem IsCoherent.after (hc : c.IsCoherent) {call : Call} (hcall : call.IsModerate) :
    ∃ c', c.after call = .ok c' ∧ c'.IsCoherent := by
  cases call with
  | init => exact ⟨_, rfl, hc.init⟩
  | shutdown => exact ⟨_, rfl, hc.shutdown⟩
  | convert job reading =>
    obtain ⟨_, c', h, hc', -⟩ := hc.of_convert (j := job) hcall reading
    exact ⟨c', by rw [Converter.after, answer, h]; rfl, hc'⟩
  | convertInto job out reading =>
    obtain ⟨_, _, c', h, hc', -⟩ := hc.of_convertInto (j := job) hcall out reading
    exact ⟨c', by rw [Converter.after, answer, h]; rfl, hc'⟩
  | convertFrame frame reading =>
    obtain ⟨_, c', h, hc', -⟩ := hc.of_convert (j := c.jobOf frame) hcall reading
    exact ⟨c', by rw [Converter.after, answer, convertFrame, h]; rfl, hc'⟩
  | setPalette charset gamma =>
    cases h : c.setPalette charset gamma with
    | ok c' => exact ⟨c', by rw [Converter.after, answer, h]; rfl, hc.setPalette h⟩
    | error _ => exact ⟨c, by rw [Converter.after, answer, h]; rfl, hc⟩
  | setVectorized on => exact ⟨_, rfl, hc.setVectorized on⟩
  | setBenchmark on => exact ⟨_, rfl, hc.setBenchmark on⟩
  | setWarmup n =>
    exact ⟨_, rfl, ⟨hc.tables, hc.reducer, hc.grid_isFull, hc.grid_le,
      hc.meter.setWarmup (toNat_le_frameLimit n)⟩⟩
  | resetStats =>
    exact ⟨_, rfl, ⟨hc.tables, hc.reducer, hc.grid_isFull, hc.grid_le, hc.meter.reset⟩⟩

/-- A whole history of such calls is defined and keeps a converter coherent. -/
theorem IsCoherent.afterAll (hc : c.IsCoherent) {history : List Call}
    (hhistory : ∀ call ∈ history, call.IsModerate) :
    ∃ c', c.afterAll history = .ok c' ∧ c'.IsCoherent :=
  run_induction (fun _ _ h hcall => h.after hcall) hc hhistory

end Converter

end GlyphMosaic
