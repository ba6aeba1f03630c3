import GlyphMosaic.Proofs.Converter.Accounts
import GlyphMosaic.Proofs.Converter.FrameRuns
import GlyphMosaic.Proofs.Session.Answers

/-!
# Benchmarks

* `Session.gives_convertTimed` : one frame is converted as without a stopwatch.
* `Session.gives_feed` : a phase pulls its frames and converts one after the other.
* `Session.gives_benchmark` : a benchmark is two phases in a row, the first one with the lanes.
* `Session.IsMeasured` : what two phases leave behind; `Session.isMeasured_of_converts` puts them
  together.
* `Session.benchmark_measures` : **what a benchmark pulls, counts, reports and leaves behind**, for
  any source, with the clocks of any fair stopwatch.
-/

namespace GlyphMosaic

namespace Session

variable {m : Type → Type} [Monad m] [LawfulMonad m] {σ : Type} [FrameSource σ]
    {watch : Stopwatch m}

section

variable (hwatch : watch.IsFair) {c : Converter} {f : Frame} {frames : List Frame} {s s' : σ}

include hwatch

/-- A frame is converted as without a stopwatch, for some reading of its clocks. -/
theorem gives_convertTimed (hc : c.IsCoherent) (hf : f.IsModerate) :
    Gives (convertTimed watch c f) fun (outcome, c₁) =>
      c₁.IsCoherent ∧ ∃ r, c.convertFrame f r = .ok (outcome, c₁) := by
  refine (gives_timed hwatch _).bind ?_
  rintro ⟨drawn, r⟩ rfl
  obtain ⟨outcome, c₁, hconvert, hc₁⟩ := hc.convertFrame hf r
  obtain ⟨⟨outcome', drawn⟩, hdraw, hsettle⟩ := bind_eq_ok.1 hconvert
  cases hsettle
  refine (gives_of_eq_ok (P := (· = (outcome, drawn))) hdraw rfl).bind ?_
  rintro _ rfl
  exact gives_pure ⟨hc₁, r, hconvert⟩

/-- A phase pulls its frames and converts one after the other. -/
theorem gives_feed {n : Nat} (hc : c.IsCoherent) (hs : FrameSource.IsModerate s)
    (hpull : FrameSource.pull n s = .ok (frames, s')) (size : UInt32 × UInt32) :
    Gives (feed watch n ⟨c, s, size⟩) fun done => done.source = s' ∧
      done.size = (frames.map fun f => (f.width, f.height)).getLastD size ∧
      c.Converts frames done.converter := by
  induction n generalizing c s frames size with
  | zero =>
    cases hpull
    exact gives_pure ⟨rfl, rfl, hc.converts_nil⟩
  | succ n ih =>
    obtain hnone | ⟨f, s₁, hsome, hf, hs₁⟩ := hs.next
    · rw [FrameSource.pull_of_none hnone] at hpull
      cases hpull
      refine (gives_of_eq_ok (P := (· = none)) hnone rfl).bind ?_
      rintro _ rfl
      exact gives_pure ⟨rfl, rfl, hc.converts_nil⟩
    · obtain ⟨rest, hrest, rfl⟩ := (FrameSource.pull_eq_ok_of_some hsome).1 hpull
      refine (gives_of_eq_ok (P := (· = some (f, s₁))) hsome rfl).bind ?_
      rintro _ rfl
      refine (gives_convertTimed hwatch hc hf).bind ?_
      rintro ⟨outcome, c₁⟩ ⟨hc₁, r, hconvert⟩
      refine (ih hc₁ hs₁ hrest (f.width, f.height)).mono ?_
      rintro done ⟨hsource, hsize, hconverts⟩
      refine ⟨hsource, ?_, hconverts.cons hc hconvert hc₁ (hs₁.of_mem_pull hrest)⟩
      rw [hsize, List.map_cons, List.getLastD_cons]

/-- A benchmark is two phases in a row, the first one with the lanes. -/
theorem gives_benchmark {n : Nat} {V S : List Frame} {s₁ s₂ : σ} (hc : c.IsCoherent)
    (hs : FrameSource.IsModerate s) (hV : FrameSource.pull n s = .ok (V, s₁))
    (hS : FrameSource.pull n s₁ = .ok (S, s₂)) (name : String) :
    Gives (benchmark watch name n c s) fun (report, done, source) => source = s₂ ∧ ∃ c₁ c₂,
      ((c.setBenchmark true).setVectorized true).Converts V c₁ ∧
      (c₁.setVectorized false).Converts S c₂ ∧
      done = (c₂.setBenchmark false).setVectorized c.vectorized ∧
      report = {
        source := name
        sourceSize :=
          ((V ++ S).map fun f => (f.width, f.height)).getLastD (FrameSource.nativeSize s)
        grid := (c₂.settings.outputWidth, c₂.settings.outputHeight)
        frames := n
        warmupFrames := c₂.settings.warmupFrames.toNat
        vectorizedSupported
        modes :=
          [⟨.vectorized, c₂.meter.stats .vectorized⟩, ⟨.scalar, c₂.meter.stats .scalar⟩] } := by
  refine (gives_feed hwatch ((hc.setBenchmark true).setVectorized true) hs hV
    (FrameSource.nativeSize s)).bind ?_
  rintro ⟨c₁, _, _⟩ ⟨rfl, rfl, hfirst⟩
  refine (gives_feed hwatch (hfirst.isCoherent.setVectorized false) (hs.of_pull hV) hS _).bind ?_
  rintro ⟨c₂, _, _⟩ ⟨rfl, rfl, hsecond⟩
  refine gives_pure ⟨rfl, c₁, c₂, hfirst, hsecond, rfl, ?_⟩
  rw [List.map_append, getLastD_append]
  rfl

end

/-! ### Two phases -/

section

variable {c c₁ c₂ : Converter} {V S : List Frame}

/-- What two phases leave behind, in terms of the converter before them. -/
structure IsMeasured (c : Converter) (V S : List Frame) (d : Converter) : Prop where
  isCoherent : d.IsCoherent
  settings : d.settings = c.settings
  capacity : d.capacity = c.capacity
  grid : d.grid = ((V ++ S).filterMap c.conversion?).getLastD c.grid
  frameId : d.clock.frameId = c.clock.frameId + .ofNat ((V ++ S).filterMap c.conversion?).length
  vectorized : ∃ readings : List Reading, readings.length = (V.filterMap c.conversion?).length ∧
    d.meter.stats .vectorized = FrameStats.zero.recordAll c.meter.warmup readings
  scalar : ∃ readings : List Reading, readings.length = (S.filterMap c.conversion?).length ∧
    d.meter.stats .scalar = FrameStats.zero.recordAll c.meter.warmup readings

theorem isMeasured_of_converts (hc : c.IsCoherent) (hV : ∀ f ∈ V, f.IsModerate)
    (hS : ∀ f ∈ S, f.IsModerate) (hfirst : ((c.setBenchmark true).setVectorized true).Converts V c₁)
    (hsecond : (c₁.setVectorized false).Converts S c₂) : IsMeasured c V S c₂ := by
  -- the switches make no difference to what the frames are converted to
  have hV' : V.filterMap ((c.setBenchmark true).setVectorized true).conversion? =
      V.filterMap c.conversion? :=
    hc.filterMap_congr ((hc.setBenchmark true).setVectorized true) rfl rfl hV
  have hS' : S.filterMap (c₁.setVectorized false).conversion? = S.filterMap c.conversion? :=
    hc.filterMap_congr (hfirst.isCoherent.setVectorized false) hfirst.settings hfirst.capacity hS
  obtain ⟨readings₁, hlength₁, hmeter₁⟩ := hfirst.meter
  obtain ⟨readings₂, hlength₂, hmeter₂⟩ := hsecond.meter
  rw [hV'] at hlength₁
  rw [hS'] at hlength₂
  change c₁.meter = (c.meter.setEnabled true).recordAll .vectorized readings₁ at hmeter₁
  change c₂.meter = c₁.meter.recordAll .scalar readings₂ at hmeter₂
  obtain ⟨henabled, hwarmup⟩ := c.meter.switches_setEnabled true
  obtain ⟨henabled₁, hwarmup₁⟩ := (c.meter.setEnabled true).switches_recordAll .vectorized readings₁
  rw [← hmeter₁] at henabled₁ hwarmup₁
  refine ⟨hsecond.isCoherent, hsecond.settings.trans hfirst.settings,
    hsecond.capacity.trans hfirst.capacity, ?_, ?_, ⟨readings₁, hlength₁, ?_⟩,
    ⟨readings₂, hlength₂, ?_⟩⟩
  · rw [hsecond.grid, hS', List.filterMap_append, getLastD_append]
    change (S.filterMap c.conversion?).getLastD c₁.grid = _
    rw [hfirst.grid, hV']
    rfl
  · rw [hsecond.frameId, hS', List.filterMap_append, List.length_append, UInt32.ofNat_add]
    change c₁.clock.frameId + _ = _
    rw [hfirst.frameId, hV', UInt32.add_assoc]
    rfl
  · rw [hmeter₂, Meter.stats_recordAll, if_neg (by simp), hmeter₁, Meter.stats_recordAll, henabled,
      hwarmup, Meter.stats_setEnabled]
    rfl
  · rw [hmeter₂, Meter.stats_recordAll, henabled₁.trans henabled, hwarmup₁.trans hwarmup, hmeter₁,
      Meter.stats_recordAll, Meter.stats_setEnabled]
    simp

theorem length_conversions_le {n : UInt32} {s s' : σ} {frames : List Frame}
    (hpull : FrameSource.pull n.toNat s = .ok (frames, s')) (c : Converter) :
    (frames.filterMap c.conversion?).length ≤ FrameStats.frameLimit :=
  calc (frames.filterMap c.conversion?).length
    _ ≤ frames.length := List.length_filterMap_le _ _
    _ ≤ n.toNat := FrameSource.length_le_of_pull hpull
    _ ≤ FrameStats.frameLimit := Converter.toNat_le_frameLimit n

end

/-- **What a benchmark measures.**  A converter that any history leads to, and a source that does
not fault and has only frames of fewer than `2 ^ 32` pixels, with or without end: the benchmark
pulls up to `n` frames `V` and then up to `n` frames `S`, and nothing more.  Whatever was counted
before, afterwards the vectorized statistics count the frames of `V` that were converted and the
scalar ones those of `S`, up to the warm-up of the settings not measured.  The report lists both in
this order, with the dimensions of the last frame pulled.  The measuring is off, the mode is the one
from before, the frame number has grown by the frames converted, and the grid is that of the last
one of them. -/
theorem benchmark_measures (hwatch : watch.IsFair) {c : Converter} (hc : c.HasHistory) {s : σ}
    (hs : FrameSource.IsModerate s) (name : String) (n : UInt32) : ∃ V s₁ S s₂,
    FrameSource.pull n.toNat s = .ok (V, s₁) ∧ FrameSource.pull n.toNat s₁ = .ok (S, s₂) ∧
    Gives (benchmark watch name n.toNat c s) fun (report, done, source) =>
      source = s₂ ∧
      (done.meter.stats .vectorized).frameCount = (V.filterMap c.conversion?).length ∧
      (done.meter.stats .scalar).frameCount = (S.filterMap c.conversion?).length ∧
      (∀ mode, (done.meter.stats mode).warmupCount =
        min (done.meter.stats mode).frameCount c.settings.warmupFrames.toNat) ∧
      report.modes =
        [⟨.vectorized, done.meter.stats .vectorized⟩, ⟨.scalar, done.meter.stats .scalar⟩] ∧
      (∀ entry ∈ report.modes,
        entry.stats.measured + entry.stats.warmupCount = entry.stats.frameCount) ∧
      report.sourceSize =
        ((V ++ S).map fun f => (f.width, f.height)).getLastD (FrameSource.nativeSize s) ∧
      report.grid = (c.settings.outputWidth, c.settings.outputHeight) ∧
      report.warmupFrames = c.settings.warmupFrames.toNat ∧ report.frames = n.toNat ∧
      report.source = name ∧
      done.meter.enabled = false ∧ done.vectorized = c.vectorized ∧
      done.clock.frameId = c.clock.frameId + .ofNat ((V ++ S).filterMap c.conversion?).length ∧
      done.grid = ((V ++ S).filterMap c.conversion?).getLastD c.grid := by
  have hcoherent := hc.isCoherent
  obtain ⟨V, s₁, hV, hVmoderate⟩ := hs n.toNat
  obtain ⟨S, s₂, hS, hSmoderate⟩ := hs.of_pull hV n.toNat
  refine ⟨V, s₁, S, s₂, hV, hS, (gives_benchmark hwatch hcoherent hs hV hS name).mono ?_⟩
  rintro ⟨report, done, source⟩ ⟨rfl, c₁, c₂, hfirst, hsecond, rfl, rfl⟩
  obtain ⟨-, hsettings, -, hgrid, hframeId, ⟨readings₁, hlength₁, hvectorized⟩, readings₂, hlength₂,
    hscalar⟩ := isMeasured_of_converts hcoherent hVmoderate hSmoderate hfirst hsecond
  rw [hc.hasOwnWarmup] at hvectorized hscalar
  obtain ⟨hframes₁, hwarmup₁⟩ := FrameStats.counts_recordAll_zero
    (hlength₁ ▸ length_conversions_le hV c) c.settings.warmupFrames.toNat
  obtain ⟨hframes₂, hwarmup₂⟩ := FrameStats.counts_recordAll_zero
    (hlength₂ ▸ length_conversions_le hS c) c.settings.warmupFrames.toNat
  -- switching the meter off keeps its statistics
  have hkept : ∀ mode, ((c₂.setBenchmark false).setVectorized c.vectorized).meter.stats mode =
      c₂.meter.stats mode := fun mode => c₂.meter.stats_setEnabled false mode
  have hwarmups : ∀ mode, (c₂.meter.stats mode).warmupCount =
      min (c₂.meter.stats mode).frameCount c.settings.warmupFrames.toNat := by
    intro mode
    cases mode with
    | vectorized => rw [hvectorized, hwarmup₁, hframes₁]
    | scalar => rw [hscalar, hwarmup₂, hframes₂]
  have hmeasured : ∀ mode, (c₂.meter.stats mode).measured + (c₂.meter.stats mode).warmupCount =
      (c₂.meter.stats mode).frameCount := by
    intro mode
    have := hwarmups mode
    unfold FrameStats.measured
    omega
  refine ⟨rfl, ?_, ?_, fun mode => ?_, ?_, ?_, rfl, ?_, ?_, rfl, rfl, ?_, rfl, hframeId, hgrid⟩
  · rw [hkept, hvectorized, hframes₁, hlength₁]
  · rw [hkept, hscalar, hframes₂, hlength₂]
  · rw [hkept]
    exact hwarmups mode
  · rw [hkept, hkept]
  · simp [hmeasured]
  · rw [hsettings]
  · rw [hsettings]
  · exact (c₂.meter.switches_setEnabled false).1

/-- Three frames, the second of which has no extent, and two of them for each mode: the source ends
in the middle of the second phase. -/
theorem benchmark_measures_three : ∃ c report done, Converter.ofSettings .default = .ok c ∧
    (benchmark (.steady Converter.stillReading) "three" 2 c
      (Source.sequence [⟨2, 1, #[1, 2]⟩, ⟨0, 1, #[7]⟩, ⟨1, 1, #[3]⟩] (5, 5))).run =
        .ok (report, done, .sequence [] (5, 5)) ∧
    (done.meter.stats .vectorized).frameCount = 1 ∧ (done.meter.stats .scalar).frameCount = 1 ∧
    (done.meter.stats .scalar).warmupCount = 1 ∧ report.sourceSize = (1, 1) ∧
    done.clock.frameId = c.clock.frameId + 2 := by
  obtain ⟨c, hstart, hsettings, hcapacity⟩ : ∃ c, Converter.ofSettings .default = .ok c ∧
      c.settings = .default ∧ c.capacity = 19200 := ⟨_, rfl, rfl, rfl⟩
  have hc : c.HasHistory := ⟨_, c, [], hstart, rfl⟩
  have hframes : ∀ f ∈ [(⟨2, 1, #[1, 2]⟩ : Frame), ⟨0, 1, #[7]⟩, ⟨1, 1, #[3]⟩], f.IsModerate := by
    simp [Frame.IsModerate, Converter.IsModerate]
  obtain ⟨V, s₁, S, s₂, hV, hS, hgives⟩ := benchmark_measures
    (Stopwatch.isFair_steady Converter.stillReading) hc (Source.isModerate_sequence hframes (5, 5))
    "three" 2
  rw [Source.pull_sequence] at hV
  cases hV
  rw [Source.pull_sequence] at hS
  cases hS
  obtain ⟨⟨report, done, source⟩, hrun, rfl, hvectorized, hscalar, hwarmup, -, -, hsize, -, -, -, -,
    -, -, hframeId, -⟩ := hgives.exists_eq
  -- there is room for the cells, so that the frames decide
  have hroom : ∀ f, (c.jobOf f).cellCount ≤ c.capacity := by
    intro f
    rw [hcapacity, Converter.jobOf, hsettings]
    exact (by decide : Grid.area 240 80 ≤ 19200)
  have hrefusal : ∀ f, (c.jobOf f).refusal? =
      (⟨f.pixels, f.width, f.height, 240, 80⟩ : Job).refusal? := by
    intro f
    rw [Converter.jobOf, hsettings]
    rfl
  simp only [List.forall_mem_cons] at hframes
  obtain ⟨hf₁, hf₂, hf₃, -⟩ := hframes
  obtain ⟨g₁, h₁⟩ : ∃ g, c.conversion? ⟨2, 1, #[1, 2]⟩ = some g :=
    ⟨_, (hc.isCoherent.conversion?_eq hf₁).trans (if_pos ⟨hroom _, hrefusal _⟩)⟩
  have h₂ : c.conversion? ⟨0, 1, #[7]⟩ = none := by
    refine (hc.isCoherent.conversion?_eq hf₂).trans (if_neg ?_)
    rintro ⟨-, h⟩
    rw [hrefusal] at h
    cases h
  obtain ⟨g₃, h₃⟩ : ∃ g, c.conversion? ⟨1, 1, #[3]⟩ = some g :=
    ⟨_, (hc.isCoherent.conversion?_eq hf₃).trans (if_pos ⟨hroom _, hrefusal _⟩)⟩
  have hV : ([⟨2, 1, #[1, 2]⟩, ⟨0, 1, #[7]⟩].filterMap c.conversion?).length = 1 := by
    rw [List.filterMap_cons_some h₁, List.filterMap_cons_none h₂]
    rfl
  have hS : ([⟨1, 1, #[3]⟩].filterMap c.conversion?).length = 1 := by
    rw [List.filterMap_cons_some h₃]
    rfl
  have hscalar' := hscalar.trans hS
  refine ⟨c, report, done, hstart, hrun, hvectorized.trans hV, hscalar', ?_, hsize, ?_⟩
  · rw [hwarmup, hscalar', hsettings]
    rfl
  · rw [hframeId, List.filterMap_append, List.length_append]
    change c.clock.frameId + .ofNat
      (([⟨2, 1, #[1, 2]⟩, ⟨0, 1, #[7]⟩].filterMap c.conversion?).length +
      ([⟨1, 1, #[3]⟩].filterMap c.conversion?).length) = _
    rw [hV, hS]
    rfl

end Session

end GlyphMosaic
