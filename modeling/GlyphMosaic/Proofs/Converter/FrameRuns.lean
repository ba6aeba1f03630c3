import GlyphMosaic.Proofs.Converter.Conversions
import GlyphMosaic.Proofs.Source.Pulling

/-!
# Frames converted one after the other

* `Converter.conversion?` : the grid that a frame is converted to, unless it is skipped.
* `Converter.IsCoherent.conversion?_eq` : it depends on the settings, the tables and the capacity
  alone, neither on the mode nor on the frames before it; `Converter.IsCoherent.conversion?_congr`
  compares two converters.
* `Converter.Converts` : all that is left of a converter when it has converted some frames, accounts
  included.
* `Converter.Converts.cons` : one frame more in front.
-/

namespace GlyphMosaic

theorem getLastD_append {α : Type} (xs ys : List α) (d : α) :
    (xs ++ ys).getLastD d = ys.getLastD (xs.getLastD d) := by
  induction xs generalizing d with
  | nil => rfl
  | cons x xs ih => rw [List.cons_append, List.getLastD_cons, List.getLastD_cons, ih]

/-- Settings that show frames alike: they differ in the mode, the measuring and the warm-up at
most. -/
structure Settings.ShowsLike (s t : Settings) : Prop where
  charset : s.charset = t.charset
  gamma : s.gamma = t.gamma
  outputWidth : s.outputWidth = t.outputWidth
  outputHeight : s.outputHeight = t.outputHeight

theorem Settings.ShowsLike.of_eq {s t : Settings} (h : s = t) : s.ShowsLike t := by
  subst h
  exact ⟨rfl, rfl, rfl, rfl⟩

namespace Converter

/-- The grid that a frame is converted to, unless it is skipped; the clocks make no difference. -/
def conversion? (c : Converter) (f : Frame) : Option Grid :=
  match c.convertFrame f stillReading with
  | .ok (.converted _, drawn) => some drawn.grid
  | _ => none

variable {c c₁ d : Converter} {f : Frame} {frames : List Frame} {r : Reading} {outcome : Outcome}

theorem conversion?_of_drawGrid (h : c.drawGrid (c.jobOf f) = .ok (outcome, d)) :
    c.conversion? f = if outcome.isConverted then some d.grid else none := by
  unfold conversion? Converter.convertFrame Converter.convert
  rw [h]
  cases outcome <;> rfl

/-- A skipped frame changes nothing; a converted one changes the grid, what is reused, and the
accounts. -/
theorem convertFrame_cases (h : c.convertFrame f r = .ok (outcome, c₁)) :
    (outcome.isConverted = false ∧ c.conversion? f = none ∧ c₁ = c) ∨
      ∃ grid reducer, outcome.isConverted = true ∧ c.conversion? f = some grid ∧
        c₁ = ({ c.withTables with grid, reducer } : Converter).settle r := by
  obtain ⟨⟨outcome', drawn⟩, hdraw, h⟩ := bind_eq_ok.1 h
  cases h
  rw [conversion?_of_drawGrid hdraw]
  obtain ⟨hskipped, rfl⟩ | ⟨cells, reducer, rfl, rfl⟩ := drawGrid_cases hdraw
  · cases outcome with
    | skipped reason => exact .inl ⟨rfl, rfl, rfl⟩
    | converted cells => cases hskipped
  · exact .inr ⟨_, reducer, rfl, rfl, rfl⟩

theorem IsCoherent.conversion?_eq (hc : c.IsCoherent) (hf : f.IsModerate) : c.conversion? f =
    if (c.jobOf f).cellCount ≤ c.capacity ∧ (c.jobOf f).refusal? = none then
      some ⟨c.settings.outputWidth, c.settings.outputHeight,
        Region.cells c.currentTables f.pixels (c.jobOf f).dimensions⟩
    else none := by
  by_cases hroom : (c.jobOf f).cellCount ≤ c.capacity
  · cases h : (c.jobOf f).refusal? with
    | some reason =>
      have hdraw : c.drawGrid (c.jobOf f) = .ok (.skipped reason, c) := by
        rw [drawGrid, if_neg (Nat.not_lt.2 hroom), h]
      simp [conversion?_of_drawGrid hdraw, Outcome.isConverted]
    | none =>
      obtain ⟨reducer, hcells, -⟩ := hc.draw (j := c.jobOf f) h hf
      have hdraw : c.drawGrid (c.jobOf f) =
          .ok (.converted (Region.cells c.currentTables f.pixels (c.jobOf f).dimensions).size,
            { c.withTables with
              reducer
              grid := ⟨c.settings.outputWidth, c.settings.outputHeight,
                Region.cells c.currentTables f.pixels (c.jobOf f).dimensions⟩ }) := by
        rw [drawGrid, if_neg (Nat.not_lt.2 hroom), h]
        simp only [hcells]
        rfl
      simp [conversion?_of_drawGrid hdraw, Outcome.isConverted, hroom]
  · have hdraw : c.drawGrid (c.jobOf f) = .ok (.skipped .outputTooSmall, c) :=
      if_pos (Nat.lt_of_not_le hroom)
    simp [conversion?_of_drawGrid hdraw, Outcome.isConverted, hroom]

/-- Coherent converters whose settings show frames alike, with the same room, convert a frame
alike. -/
theorem IsCoherent.conversion?_congr (hc : c.IsCoherent) (hd : d.IsCoherent)
    (hsettings : d.settings.ShowsLike c.settings) (hcapacity : d.capacity = c.capacity)
    (hf : f.IsModerate) : d.conversion? f = c.conversion? f := by
  have htables : d.currentTables = c.currentTables := by
    have htables := hd.tables
    rw [hsettings.charset, hsettings.gamma] at htables
    exact Except.ok.inj (htables.symm.trans hc.tables)
  have hjob : d.jobOf f = c.jobOf f := by
    rw [jobOf, hsettings.outputWidth, hsettings.outputHeight, jobOf]
  rw [hd.conversion?_eq hf, hc.conversion?_eq hf, hjob, htables, hsettings.outputWidth,
    hsettings.outputHeight, hcapacity]

theorem IsCoherent.filterMap_congr (hc : c.IsCoherent) (hd : d.IsCoherent)
    (hsettings : d.settings = c.settings) (hcapacity : d.capacity = c.capacity)
    (hframes : ∀ f ∈ frames, f.IsModerate) :
    frames.filterMap d.conversion? = frames.filterMap c.conversion? :=
  List.filterMap_congr fun f hf =>
    hc.conversion?_congr hd (.of_eq hsettings) hcapacity (hframes f hf)

/-- What is left of a converter when it has converted some frames. -/
structure Converts (c : Converter) (frames : List Frame) (d : Converter) : Prop where
  isCoherent : d.IsCoherent
  settings : d.settings = c.settings
  capacity : d.capacity = c.capacity
  vectorized : d.vectorized = c.vectorized
  /-- The grid is that of the last frame that was not skipped. -/
  grid : d.grid = (frames.filterMap c.conversion?).getLastD c.grid
  /-- Only these frames are counted. -/
  frameId : d.clock.frameId = c.clock.frameId + .ofNat (frames.filterMap c.conversion?).length
  /-- And they are recorded. -/
  meter : ∃ readings : List Reading, readings.length = (frames.filterMap c.conversion?).length ∧
    d.meter = c.meter.recordAll c.mode readings

theorem IsCoherent.converts_nil (hc : c.IsCoherent) : c.Converts [] c where
  isCoherent := hc
  settings := rfl
  capacity := rfl
  vectorized := rfl
  grid := rfl
  frameId := by simp
  meter := ⟨[], rfl, rfl⟩

theorem IsCoherent.convertFrame (hc : c.IsCoherent) (hf : f.IsModerate) (r : Reading) :
    ∃ outcome c₁, c.convertFrame f r = .ok (outcome, c₁) ∧ c₁.IsCoherent := by
  obtain ⟨outcome, c₁, h, hc₁, -⟩ := hc.of_convert (j := c.jobOf f) hf r
  exact ⟨outcome, c₁, h, hc₁⟩

theorem Converts.cons (hc : c.IsCoherent) (h : c.convertFrame f r = .ok (outcome, c₁))
    (hc₁ : c₁.IsCoherent) (hframes : ∀ g ∈ frames, g.IsModerate) (hrest : c₁.Converts frames d) :
    c.Converts (f :: frames) d := by
  obtain ⟨-, hskipped, rfl⟩ | ⟨grid, reducer, -, hconverted, rfl⟩ := convertFrame_cases h
  · have hfilter : (f :: frames).filterMap c₁.conversion? = frames.filterMap c₁.conversion? :=
      List.filterMap_cons_none hskipped
    obtain ⟨hd, hsettings, hcapacity, hvectorized, hgrid, hframeId, hmeter⟩ := hrest
    rw [← hfilter] at hgrid hframeId hmeter
    exact ⟨hd, hsettings, hcapacity, hvectorized, hgrid, hframeId, hmeter⟩
  · -- the frames behind it are converted as they would be without it
    have hcongr : frames.filterMap
        (({ c.withTables with grid, reducer } : Converter).settle r).conversion? =
        frames.filterMap c.conversion? :=
      hc.filterMap_congr hc₁ rfl rfl hframes
    have hfilter : (f :: frames).filterMap c.conversion? = grid :: frames.filterMap c.conversion? :=
      List.filterMap_cons_some hconverted
    obtain ⟨readings, hlength, hmeter⟩ := hrest.meter
    rw [hcongr] at hlength
    refine ⟨hrest.isCoherent, hrest.settings, hrest.capacity, hrest.vectorized, ?_, ?_,
      r :: readings, ?_, hmeter⟩
    · rw [hrest.grid, hcongr, hfilter, List.getLastD_cons]
      rfl
    · rw [hrest.frameId, hcongr, hfilter, List.length_cons, UInt32.ofNat_add]
      change c.clock.frameId + 1 + _ = _
      rw [UInt32.add_assoc, UInt32.add_comm 1]
      rfl
    · rw [List.length_cons, hlength, hfilter, List.length_cons]

end Converter

end GlyphMosaic
