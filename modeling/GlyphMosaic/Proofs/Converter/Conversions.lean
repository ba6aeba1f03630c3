import GlyphMosaic.Proofs.Converter.Histories

/-!
# What a conversion does

* `Job.IsShownBy` : cells show a job if each shows its region, down to the pixels.
* `Converter.converted_isShownBy` : **whatever came before it, a converted frame is shown**, by the
  tables of the current settings.
* `Job.firstLack?` : the first of some reasons to skip a job.
* `Converter.HasHistory.skips_or_converts` : **a skipped frame changes nothing**, and which frames
  are skipped and why is a matter of the order of the reasons only; a converted one changes the
  cells it should.
-/

namespace GlyphMosaic

/-! ### Shown frames -/

namespace Job

/-- Cells show a job: the one at each place shows the rectangle of its column's and its row's
span. -/
def IsShownBy (j : Job) (tables : Tables) (cells : Array Cell) : Prop :=
  ∀ column < j.outputWidth.toNat, ∀ row < j.outputHeight.toNat, ∃ (region : Region) (cell : Cell),
    (axisSpans j.sourceWidth.toNat j.outputWidth.toNat)[column]? = some region.columns ∧
    (axisSpans j.sourceHeight.toNat j.outputHeight.toNat)[row]? = some region.rows ∧
    cells[row * j.outputWidth.toNat + column]? = some cell ∧
    region.IsShownBy j.pixels j.sourceWidth.toNat tables j.sourceHeight.toNat cell

variable {j : Job}

theorem isShownBy_cells (h : j.refusal? = none) (hj : j.IsModerate) (tables : Tables)
    (rest : Array Cell) :
    j.IsShownBy tables (Region.cells tables j.pixels j.dimensions ++ rest) := by
  have hd := isModerate_dimensions h hj
  intro column hc row hr
  rw [← outputWidth_dimensions] at hc ⊢
  rw [← outputHeight_dimensions] at hr ⊢
  refine ⟨.ofCell j.dimensions column row, _, (getElem?_axisSpans hd.outputWidth_pos).2 ⟨hc, rfl⟩,
    (getElem?_axisSpans hd.outputHeight_pos).2 ⟨hr, rfl⟩, ?_,
    Region.isShownBy_cell hd hc hr (refusal?_eq_none.1 h).2.2 tables⟩
  have hcell := Region.getElem?_cells tables j.pixels hc hr
  have hlt := (Array.getElem?_eq_some_iff.1 hcell).1
  rw [Array.getElem?_append_left hlt, hcell]

end Job

namespace Converter

/-- **Whatever came before it, a converted frame is shown.**  After any history of calls on sources
of fewer than `2 ^ 32` pixels, none of which faults, neither kind of conversion of a frame of fewer
than `2 ^ 32` pixels faults, and if it converts the frame then every cell shows its region by the
tables that the current charset and exponent give.  The counts of frames never leave their words
either. -/
theorem converted_isShownBy (settings : Settings) (start : Converter) (history : List Call)
    (hstart : ofSettings settings = .ok start) (hhistory : ∀ call ∈ history, call.IsModerate) :
    ∃ c tables, start.afterAll history = .ok c ∧
      Tables.ofCharset c.settings.charset c.settings.gamma = .ok tables ∧ c.meter.IsSound ∧
      ∀ (j : Job) (out : Array Cell) (r : Reading),
        j.sourceWidth.toNat * j.sourceHeight.toNat < 2 ^ 32 →
        (∃ outcome c', c.convert j r = .ok (outcome, c') ∧
          (outcome.isConverted → j.IsShownBy tables c'.grid.cells)) ∧
        (∃ outcome out' c', c.convertInto j out r = .ok (outcome, out', c') ∧
          (outcome.isConverted → j.IsShownBy tables out')) := by
  obtain ⟨c, hafter, hc⟩ := (isCoherent_ofSettings hstart).afterAll hhistory
  refine ⟨c, c.currentTables, hafter, hc.tables, hc.meter, fun j out r hlt => ?_⟩
  have hj := Job.isModerate_of_lt hlt
  obtain ⟨outcome, c', hconvert, -, hgrid⟩ := hc.of_convert hj r
  obtain ⟨outcome', out', c'', hinto, -, hout⟩ := hc.of_convertInto hj out r
  refine ⟨⟨outcome, c', hconvert, fun hconv => ?_⟩, outcome', out', c'', hinto, fun hconv => ?_⟩
  · obtain ⟨h, hcells⟩ := hgrid hconv
    rw [hcells]
    simpa using Job.isShownBy_cells h hj c.currentTables #[]
  · -- the cells behind the first ones are the caller's
    obtain ⟨h, rfl⟩ := hout hconv
    exact Job.isShownBy_cells h hj c.currentTables _

/-- A reading of clocks that stand still. -/
def stillReading : Reading := ⟨⟨0, 0⟩, 0, 0⟩

/-- Two rows of three pixels and one pixel more, as one row of two cells. -/
def unevenJob : Job := ⟨#[10, 20, 30, 40, 50, 60, 70], 3, 2, 2, 1⟩

/-- The uneven job after conversions of other sizes in the other mode, a palette that is refused,
one that is not and a shutdown, in the own grid and in a caller's cells. -/
theorem converted_isShownBy_uneven : ∃ start c tables own out' c',
    ofSettings .default = .ok start ∧
    start.afterAll [.convert ⟨#[1, 2, 3, 4], 2, 2, 3, 3⟩ stillReading,
      .setPalette "x" Tables.defaultGamma, .init, .setVectorized false,
      .setPalette " #" Tables.defaultGamma,
      .convertInto ⟨#[0xFFFFFFFF], 1, 1, 2, 1⟩ #[.blank, .blank] stillReading, .shutdown] = .ok c ∧
    Tables.ofCharset c.settings.charset c.settings.gamma = .ok tables ∧
    c.convert unevenJob stillReading = .ok (.converted 2, own) ∧
    unevenJob.IsShownBy tables own.grid.cells ∧
    c.convertInto unevenJob #[.blank, .blank, .blank] stillReading = .ok (.converted 2, out', c') ∧
    unevenJob.IsShownBy tables out' := by
  obtain ⟨start, hstart, hcapacity⟩ : ∃ start, ofSettings .default = .ok start ∧
      start.capacity = 19200 := ⟨_, rfl, rfl⟩
  have hhistory : ∀ call ∈ [Call.convert ⟨#[1, 2, 3, 4], 2, 2, 3, 3⟩ stillReading,
      .setPalette "x" Tables.defaultGamma, .init, .setVectorized false,
      .setPalette " #" Tables.defaultGamma,
      .convertInto ⟨#[0xFFFFFFFF], 1, 1, 2, 1⟩ #[.blank, .blank] stillReading, .shutdown],
      call.IsModerate := by
    simp [Call.IsModerate, IsModerate]
  obtain ⟨c, tables, hafter, htables, -, hjobs⟩ :=
    converted_isShownBy .default start _ hstart hhistory
  obtain ⟨⟨outcome, own, hown, hshown⟩, outcome', out', c', hcaller, hshown'⟩ :=
    hjobs unevenJob #[.blank, .blank, .blank] stillReading (by decide)
  have hc : c.IsCoherent := HasHistory.isCoherent ⟨_, start, _, hstart, hafter⟩
  have hj : unevenJob.IsModerate := Job.isModerate_of_lt (by decide)
  obtain ⟨own', hconverted, -⟩ := hc.convert
    (by rw [capacity_afterAll hafter, hcapacity]; decide) rfl hj stillReading
  obtain ⟨c'', hconverted', -⟩ := hc.convertInto rfl
    (by decide : unevenJob.cellCount ≤ #[Cell.blank, .blank, .blank].size) hj stillReading
  rw [hconverted] at hown
  cases hown
  rw [hconverted'] at hcaller
  cases hcaller
  exact ⟨start, c, tables, _, _, _, hstart, hafter, htables, hconverted, hshown rfl, hconverted',
    hshown' rfl⟩

end Converter

/-! ### Skipped frames -/

namespace Job

/-- What a job lacks where there is room for some number of cells. -/
def Lacks (j : Job) (room : Nat) : SkipReason → Prop
  | .noSource => j.pixels.size = 0
  | .zeroDimension =>
    j.sourceWidth = 0 ∨ j.sourceHeight = 0 ∨ j.outputWidth = 0 ∨ j.outputHeight = 0
  | .sourceTooShort => j.pixels.size < j.sourceWidth.toNat * j.sourceHeight.toNat
  | .outputTooSmall => room < j.outputWidth.toNat * j.outputHeight.toNat

instance (j : Job) (room : Nat) (reason : SkipReason) : Decidable (j.Lacks room reason) :=
  match reason with
  | .noSource => inferInstanceAs (Decidable (_ = _))
  | .zeroDimension => inferInstanceAs (Decidable (_ ∨ _))
  | .sourceTooShort => inferInstanceAs (Decidable (_ < _))
  | .outputTooSmall => inferInstanceAs (Decidable (_ < _))

/-- The first of some reasons to skip a job. -/
def firstLack? (j : Job) (room : Nat) : List SkipReason → Option SkipReason
  | [] => none
  | reason :: order => if j.Lacks room reason then some reason else j.firstLack? room order

/-- Room in the converter's own grid is asked for first. -/
def ownOrder : List SkipReason := [.outputTooSmall, .noSource, .zeroDimension, .sourceTooShort]

/-- Room in the caller's cells is asked for last. -/
def callerOrder : List SkipReason := [.noSource, .zeroDimension, .sourceTooShort, .outputTooSmall]

variable (j : Job) (room : Nat)

theorem firstLack?_append (before behind : List SkipReason) :
    j.firstLack? room (before ++ behind) =
      (j.firstLack? room before).or (j.firstLack? room behind) := by
  induction before with
  | nil => rfl
  | cons reason before ih =>
    rw [List.cons_append, firstLack?, firstLack?, ih]
    split <;> rfl

theorem firstLack?_ownOrder : j.firstLack? room ownOrder =
    if room < j.cellCount then some .outputTooSmall else j.refusal? := rfl

theorem firstLack?_callerOrder : j.firstLack? room callerOrder =
    j.refusal?.or (if room < j.cellCount then some .outputTooSmall else none) :=
  j.firstLack?_append room [.noSource, .zeroDimension, .sourceTooShort] [.outputTooSmall]

end Job

namespace Converter

variable {c c' : Converter} {j : Job} {out out' : Array Cell} {reason : SkipReason} {r : Reading}

/-- Which jobs the own grid skips. -/
theorem convert_eq_skipped : c.convert j r = .ok (.skipped reason, c') ↔
    j.firstLack? c.capacity Job.ownOrder = some reason ∧ c' = c := by
  rw [Job.firstLack?_ownOrder]
  by_cases hroom : c.capacity < j.cellCount
  · rw [convert_of_lt hroom, if_pos hroom]
    simp [eq_comm]
  · rw [if_neg hroom]
    cases h : j.refusal? with
    | some first =>
      rw [convert_of_refusal (Nat.not_lt.1 hroom) h]
      simp [eq_comm]
    | none =>
      -- a drawn job is converted, one that cannot be drawn is a fault
      rw [Converter.convert, drawGrid, if_neg hroom, h]
      cases c.draw j <;> simp

theorem convertInto_eq_skipped : c.convertInto j out r = .ok (.skipped reason, out', c') ↔
    j.firstLack? out.size Job.callerOrder = some reason ∧ out' = out ∧ c' = c := by
  rw [Job.firstLack?_callerOrder]
  cases h : j.refusal? with
  | some first =>
    rw [convertInto_of_refusal h]
    simp [eq_comm]
  | none =>
    rw [Option.none_or]
    by_cases hroom : out.size < j.cellCount
    · rw [convertInto_of_lt h hroom, if_pos hroom]
      simp [eq_comm]
    · rw [Converter.convertInto, h]
      simp only [if_neg hroom]
      cases c.draw j <;> simp

/-- **Skips are exact and change nothing, conversions change what they should.**  A converter that
any history leads to skips a frame for the first reason there is, room being asked for first for its
own grid and last for a caller's cells, and is then, with the caller's cells, what it was before.
Any other frame of fewer than `2 ^ 32` pixels is converted to a cell for each place of the output:
its own grid then has just these, while for a caller it keeps its grid and only the first cells of
the caller's change. -/
theorem HasHistory.skips_or_converts (hc : c.HasHistory) (j : Job) (out : Array Cell)
    (r : Reading) :
    (∀ reason c', c.convert j r = .ok (.skipped reason, c') ↔
      j.firstLack? c.capacity Job.ownOrder = some reason ∧ c' = c) ∧
    (∀ reason out' c', c.convertInto j out r = .ok (.skipped reason, out', c') ↔
      j.firstLack? out.size Job.callerOrder = some reason ∧ out' = out ∧ c' = c) ∧
    (j.sourceWidth.toNat * j.sourceHeight.toNat < 2 ^ 32 →
      j.firstLack? c.capacity Job.ownOrder = none →
      ∃ c', c.convert j r = .ok (.converted (j.outputWidth.toNat * j.outputHeight.toNat), c') ∧
        c'.grid.width = j.outputWidth ∧ c'.grid.height = j.outputHeight ∧
        c'.grid.cells.size = j.outputWidth.toNat * j.outputHeight.toNat) ∧
    (j.sourceWidth.toNat * j.sourceHeight.toNat < 2 ^ 32 →
      j.firstLack? out.size Job.callerOrder = none →
      ∃ out' c', c.convertInto j out r =
          .ok (.converted (j.outputWidth.toNat * j.outputHeight.toNat), out', c') ∧
        c'.grid = c.grid ∧ out'.size = out.size ∧
        ∀ i, j.outputWidth.toNat * j.outputHeight.toNat ≤ i → out'[i]? = out[i]?) := by
  have hcoherent := hc.isCoherent
  refine ⟨fun _ _ => convert_eq_skipped, fun _ _ _ => convertInto_eq_skipped, fun hlt hnone => ?_,
    fun hlt hnone => ?_⟩
  · rw [Job.firstLack?_ownOrder] at hnone
    split at hnone
    · cases hnone
    · rename_i hroom
      have hj := Job.isModerate_of_lt hlt
      obtain ⟨c', hconvert, hgrid, -⟩ := hcoherent.convert (Nat.not_lt.1 hroom) hnone hj r
      refine ⟨c', hconvert, by rw [hgrid], by rw [hgrid], ?_⟩
      rw [hgrid]
      exact j.size_cells c.currentTables
  · rw [Job.firstLack?_callerOrder, Option.or_eq_none_iff] at hnone
    obtain ⟨hnone, hroom⟩ := hnone
    have hroom : j.cellCount ≤ out.size := by
      by_contra hlt
      rw [if_pos (Nat.lt_of_not_le hlt)] at hroom
      cases hroom
    have hj := Job.isModerate_of_lt hlt
    obtain ⟨c', hconvert, hgrid, -⟩ := hcoherent.convertInto hnone hroom hj r
    have hsize := j.size_cells c.currentTables
    refine ⟨_, c', hconvert, hgrid, ?_, fun i hi => ?_⟩
    · rw [Array.size_append, hsize, Array.drop_eq_extract, Array.size_extract]
      omega
    · change j.cellCount ≤ i at hi
      rw [Array.getElem?_append_right (by omega), hsize, Array.drop_eq_extract,
        Array.getElem?_extract, Nat.add_sub_cancel' hi]
      split
      · rfl
      · rw [Array.getElem?_eq_none (by omega)]

/-- A new converter skips frames for each reason, and converts the uneven job. -/
theorem HasHistory.skips_or_converts_initial : ∃ c c₁ out c₂, ofSettings .default = .ok c ∧
    c.convert ⟨#[], 0, 1, 1024, 1024⟩ stillReading = .ok (.skipped .outputTooSmall, c) ∧
    c.convertInto ⟨#[], 0, 1, 2, 2⟩ #[] stillReading = .ok (.skipped .noSource, #[], c) ∧
    c.convert ⟨#[7], 1, 0, 2, 2⟩ stillReading = .ok (.skipped .zeroDimension, c) ∧
    c.convert ⟨#[7], 4294967295, 4294967295, 2, 2⟩ stillReading =
      .ok (.skipped .sourceTooShort, c) ∧
    c.convertInto ⟨#[7], 1, 1, 2, 1⟩ #[.blank] stillReading =
      .ok (.skipped .outputTooSmall, #[.blank], c) ∧
    c.convert unevenJob stillReading = .ok (.converted 2, c₁) ∧ c₁.grid.cells.size = 2 ∧
    c.convertInto unevenJob #[.blank, .blank, ⟨'~', ⟨1, 2, 3⟩⟩] stillReading =
      .ok (.converted 2, out, c₂) ∧ out[2]? = some ⟨'~', ⟨1, 2, 3⟩⟩ := by
  obtain ⟨c, hstart, hcapacity⟩ : ∃ c, ofSettings .default = .ok c ∧ c.capacity = 19200 :=
    ⟨_, rfl, rfl⟩
  have hc : c.HasHistory := ⟨_, c, [], hstart, rfl⟩
  have conversion := fun j out => HasHistory.skips_or_converts hc j out stillReading
  rw [hcapacity] at conversion
  obtain ⟨c₁, hown, -, -, hsize⟩ := (conversion unevenJob #[]).2.2.1 (by decide) rfl
  obtain ⟨out, c₂, hcaller, -, -, hrest⟩ :=
    (conversion unevenJob #[.blank, .blank, ⟨'~', ⟨1, 2, 3⟩⟩]).2.2.2 (by decide) rfl
  exact ⟨c, c₁, out, c₂, hstart, ((conversion _ #[]).1 _ _).2 ⟨rfl, rfl⟩,
    ((conversion _ _).2.1 _ _ _).2 ⟨rfl, rfl, rfl⟩, ((conversion _ #[]).1 _ _).2 ⟨rfl, rfl⟩,
    ((conversion _ #[]).1 _ _).2 ⟨rfl, rfl⟩, ((conversion _ _).2.1 _ _ _).2 ⟨rfl, rfl, rfl⟩,
    hown, hsize, hcaller, hrest 2 (Nat.le_refl 2)⟩

end Converter

end GlyphMosaic
