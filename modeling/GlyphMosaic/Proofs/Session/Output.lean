import GlyphMosaic.CommandLine.Options
import GlyphMosaic.Proofs.Converter.Usable
import GlyphMosaic.Proofs.Session.Benchmark

/-!
# What a run writes

* `Source.IsStill` : a source that shows one usable frame over and over; `Source.shows_ofPattern` :
  a new pattern source shows one usable frame after the other.
* `Session.Writes`, `Session.AlwaysWrites` : what is written after a benchmark or without one.
* `Session.writes_of_shows` : it is the grid of the frame that comes after twice the frames of the
  benchmark.
* `Session.output_unchanged` : **measuring, the warm-up and the mode do not change what is
  written**.
-/

namespace GlyphMosaic

/-- The mode, the measuring and the warm-up are all that these options change. -/
theorem Options.showsLike_resolve (file : Option Settings.Layer) (o : Options)
    (bench : Option UInt32) (warmup : Option UInt32) (scalar : Bool) :
    (Settings.resolve file (layer { o with bench, warmup, scalar })).ShowsLike
      (Settings.resolve file o.layer) := ⟨rfl, rfl, rfl, rfl⟩

/-! ### Still sources -/

/-- A source that shows one usable frame over and over: an image, or a pattern that does not move,
however many of its frames were drawn and are out. -/
inductive Source.IsStill : Source → Prop where
  | still {f : Frame} (usable : f.IsUsable) : IsStill (.still f)
  | pattern {pool : FramePool} (sound : pool.IsSound) (still : pool.pattern.isLive = false)
      (completes : pool.pattern.Completes pool.width pool.height) (width_ne : pool.width ≠ 0)
      (height_ne : pool.height ≠ 0) (size_lt : pool.width.toNat * pool.height.toNat < 2 ^ 32) :
      IsStill (.pattern pool)

theorem Source.IsStill.shows {s : Source} (hs : s.IsStill) :
    ∃ f : Frame, f.IsUsable ∧ FrameSource.Shows s fun _ => f := by
  cases hs with
  | still usable => exact ⟨_, usable, Source.shows_still _⟩
  | @pattern pool sound still completes width_ne height_ne size_lt =>
    obtain ⟨f, hpicture, hwidth, hheight, hfull⟩ := completes.exists_picture pool.drawn
    refine ⟨f, ⟨by rwa [hwidth], by rwa [hheight], by rwa [hwidth, hheight], hfull⟩,
      Source.shows_pattern sound completes fun k => ?_⟩
    rw [Pattern.picture_eq_of_not_live still _ _ _ pool.drawn, hpicture]

namespace Source

/-- A new pattern source shows its pictures from the first one on, and all of them are usable. -/
theorem shows_ofPattern {p : Pattern} {width height : UInt32}
    (hcompletes : p.Completes width height)
    (hwidth : width ≠ 0) (hheight : height ≠ 0) (hlt : width.toNat * height.toNat < 2 ^ 32) :
    ∃ pool, FramePool.ofPattern p width height = .ok pool ∧ ∃ u : Nat → Frame,
      (∀ k, p.picture width height (.ofNat k) = .ok (u k) ∧ (u k).IsUsable) ∧
      FrameSource.Shows (Source.pattern pool) u := by
  choose u hpicture huwidth huheight hfull using
    fun k : Nat => hcompletes.exists_picture (UInt64.ofNat k)
  refine ⟨_, FramePool.ofPattern_of_lt hcompletes.room p, u,
    fun k => ⟨hpicture k, ?_, ?_, ?_, hfull k⟩,
    shows_pattern (FramePool.isSound_start _ _ _) hcompletes fun k => ?_⟩
  · rwa [huwidth]
  · rwa [huheight]
  · rwa [huwidth, huheight]
  · exact (congrArg (p.picture width height) (UInt64.zero_add _)).trans (hpicture k)

end Source

/-! ### What is written -/

namespace Session

section

variable {m : Type → Type} [Monad m] {σ : Type} [FrameSource σ]

/-- A run that measures some frames first, or none, writes these bytes. -/
def Writes (watch : Stopwatch m) (format : OutputFormat) (bench : Option Nat) (c : Converter)
    (s : σ) (bytes : ByteArray) : Prop :=
  match bench with
  | none => Gives (convertOnce watch format c s) (·.1 = .ok bytes)
  | some n => ∀ name, Gives (benchmark watch name n c s) fun (_, measured, rest) =>
      Gives (convertOnce watch format measured rest) (·.1 = .ok bytes)

variable [LawfulMonad m] {watch : Stopwatch m} (hwatch : watch.IsFair) {c : Converter} {s : σ}
    {g : Grid}
  {u : Nat → Frame}

include hwatch

theorem gives_convertOnce (hc : c.IsCoherent) (hs : FrameSource.Shows s u) (hu : (u 0).IsModerate)
    (hg : c.conversion? (u 0) = some g) (format : OutputFormat) :
    Gives (convertOnce watch format c s) (·.1 = .ok (format.serialize g .empty).1) := by
  obtain ⟨s', hnext, -⟩ := hs.next
  refine (gives_of_eq_ok (P := (· = some (u 0, s'))) hnext rfl).bind ?_
  rintro _ rfl
  refine (gives_convertTimed hwatch hc hu).bind ?_
  rintro ⟨outcome, c₁⟩ ⟨-, r, hconvert⟩
  obtain ⟨-, hskipped, -⟩ | ⟨grid, reducer, hconverted, hgrid, rfl⟩ :=
    Converter.convertFrame_cases hconvert
  · rw [hskipped] at hg
    cases hg
  · rw [hg, Option.some.injEq] at hgrid
    subst hgrid
    cases outcome with
    | skipped reason => cases hconverted
    | converted cells => exact gives_pure rfl

/-- **What is written is the grid of the frame that comes after the frames measured**, in both
modes. -/
theorem writes_of_shows (hc : c.IsCoherent) (hs : FrameSource.Shows s u)
    (hu : ∀ k, (u k).IsModerate)
    (bench : Option Nat) (hg : c.conversion? (u (2 * bench.getD 0)) = some g)
    (format : OutputFormat) :
    Writes watch format bench c s (format.serialize g .empty).1 := by
  cases bench with
  | none => exact gives_convertOnce hwatch hc hs (hu 0) hg format
  | some n =>
    intro name
    obtain ⟨s₁, hV⟩ := hs n
    obtain ⟨s₂, hS⟩ := hs.of_pull hV n
    have hmoderate := hs.isModerate hu
    refine (gives_benchmark hwatch hc hmoderate hV hS name).mono ?_
    rintro ⟨report, done, source⟩ ⟨rfl, c₁, c₂, hfirst, hsecond, rfl, -⟩
    have hmeasured := isMeasured_of_converts hc (hmoderate.of_mem_pull hV)
      ((hmoderate.of_pull hV).of_mem_pull hS) hfirst hsecond
    have hdone : ((c₂.setBenchmark false).setVectorized c.vectorized).IsCoherent :=
      (hmeasured.isCoherent.setBenchmark false).setVectorized c.vectorized
    -- the source has moved on by both phases, and the converter is as good as the one before them
    have hrest : FrameSource.Shows source fun k => u (n + (n + k)) := (hs.of_pull hV).of_pull hS
    have htwice : n + (n + 0) = 2 * n := by omega
    refine gives_convertOnce hwatch hdone hrest (hu _) ?_ format
    rw [← hg, htwice]
    exact hc.conversion?_congr hdone (.of_eq hmeasured.settings) hmeasured.capacity (hu _)

end

/-- These bytes are written whatever the clocks say. -/
def AlwaysWrites {σ : Type} [FrameSource σ] (format : OutputFormat) (bench : Option Nat)
    (c : Converter) (s : σ) (bytes : ByteArray) : Prop :=
  ∀ (m : Type → Type) [Monad m] [LawfulMonad m] (watch : Stopwatch m), watch.IsFair →
    Writes watch format bench c s bytes

/-- **Measuring, the warm-up and the mode do not change what is written.**  Any settings file and
options make a converter, whatever they say about the benchmark, the warm-up and the lanes.  From a
still source the same bytes are written then for all of these, with the lanes switched on or off.
From a new source of any pattern they are the grid of the picture with twice the number of frames of
the benchmark. -/
theorem output_unchanged (file : Option Settings.Layer) (o : Options) (format : OutputFormat) :
    (∀ source : Source, source.IsStill → ∃ bytes, ∀ bench warmup scalar, ∃ c,
      Converter.ofSettings (Settings.resolve file
        (Options.layer { o with bench, warmup, scalar })) = .ok c ∧
      ∀ on, AlwaysWrites format (bench.map UInt32.toNat) (c.init.setVectorized on) source bytes) ∧
    (∀ (p : Pattern) (width height : UInt32), p.Completes width height → width ≠ 0 → height ≠ 0 →
      width.toNat * height.toNat < 2 ^ 32 → ∃ pool, FramePool.ofPattern p width height = .ok pool ∧
      ∀ bench warmup scalar, ∃ c f g,
        Converter.ofSettings (Settings.resolve file
          (Options.layer { o with bench, warmup, scalar })) = .ok c ∧
        p.picture width height (.ofNat (2 * (bench.map UInt32.toNat).getD 0)) = .ok f ∧
        c.init.conversion? f = some g ∧
        ∀ on, AlwaysWrites format (bench.map UInt32.toNat) (c.init.setVectorized on)
          (Source.pattern pool) (format.serialize g .empty).1) := by
  obtain ⟨c₀, hc₀⟩ := Converter.exists_ofSettings_resolve file o.layer
  constructor
  · intro source hsource
    obtain ⟨f, hf, hshows⟩ := hsource.shows
    obtain ⟨g, hg⟩ := Converter.exists_conversion hc₀ hf
    refine ⟨(format.serialize g .empty).1, fun bench warmup scalar => ?_⟩
    obtain ⟨c, hc⟩ := Converter.exists_ofSettings_resolve file
      (Options.layer { o with bench, warmup, scalar })
    refine ⟨c, hc, fun on m _ _ watch hwatch => ?_⟩
    refine writes_of_shows hwatch
      ((Converter.isCoherent_ofSettings hc).init.setVectorized on) hshows
      (fun _ => hf.isModerate) _ ?_ format
    rw [Converter.conversion?_of_showsLike hc hc₀ (o.showsLike_resolve file bench warmup scalar)
      hf.isModerate, hg]
  · intro p width height hcompletes hwidth hheight hlt
    obtain ⟨pool, hpool, u, hu, hshows⟩ := Source.shows_ofPattern hcompletes hwidth hheight hlt
    refine ⟨pool, hpool, fun bench warmup scalar => ?_⟩
    obtain ⟨hpicture, hf⟩ := hu (2 * (bench.map UInt32.toNat).getD 0)
    obtain ⟨c, hc⟩ := Converter.exists_ofSettings_resolve file
      (Options.layer { o with bench, warmup, scalar })
    obtain ⟨g, hg⟩ := Converter.exists_conversion hc hf
    refine ⟨c, _, g, hc, hpicture, hg, fun on m _ _ watch hwatch => ?_⟩
    refine writes_of_shows hwatch
      ((Converter.isCoherent_ofSettings hc).init.setVectorized on) hshows
      (fun k => (hu k).2.isModerate) _ ?_ format
    rw [Converter.conversion?_of_showsLike hc hc (.of_eq rfl) hf.isModerate, hg]

/-- Two pixels as they are, and without the lanes after a benchmark; and a plasma after one. -/
theorem output_unchanged_small : (∃ bytes c c' written measured written',
      Converter.ofSettings (Settings.resolve none (Options.layer {})) = .ok c ∧
      Converter.ofSettings (Settings.resolve none
        (Options.layer { bench := some 5, warmup := some 2, scalar := true })) = .ok c' ∧
      (convertOnce (.steady Converter.stillReading) .text c.init
        (Source.still ⟨2, 1, #[1, 2]⟩)).run = .ok written ∧ written.1 = .ok bytes ∧
      (benchmark (.steady Converter.stillReading) "still" 5 c'.init
        (Source.still ⟨2, 1, #[1, 2]⟩)).run = .ok measured ∧
      (convertOnce (.steady Converter.stillReading) .text measured.2.1 measured.2.2).run =
        .ok written' ∧
      written'.1 = .ok bytes) ∧
    ∃ pool c f g measured written, FramePool.ofPattern .plasma 2 1 = .ok pool ∧
      Pattern.plasma.picture 2 1 6 = .ok f ∧ c.conversion? f = some g ∧
      (benchmark (.steady Converter.stillReading) "plasma" 3 c (Source.pattern pool)).run =
        .ok measured ∧
      (convertOnce (.steady Converter.stillReading) .text measured.2.1 measured.2.2).run =
        .ok written ∧
      written.1 = .ok (OutputFormat.text.serialize g .empty).1 := by
  have hfair := Stopwatch.isFair_steady Converter.stillReading
  obtain ⟨hstill, hpattern⟩ := output_unchanged none {} .text
  constructor
  · obtain ⟨bytes, hbytes⟩ :=
      hstill (.still ⟨2, 1, #[1, 2]⟩) (.still ⟨by decide, by decide, by decide, rfl⟩)
    obtain ⟨c, hc, hwrites⟩ := hbytes none none false
    obtain ⟨c', hc', hwrites'⟩ := hbytes (some 5) (some 2) true
    obtain ⟨written, hwritten, hsame⟩ := (hwrites c.init.vectorized Id _ hfair).exists_eq
    obtain ⟨measured, hmeasured, hrest⟩ :=
      (hwrites' c'.init.vectorized Id _ hfair "still").exists_eq
    obtain ⟨written', hwritten', hsame'⟩ := hrest.exists_eq
    exact ⟨bytes, c, c', written, measured, written', hc, hc', hwritten, hsame,
      hmeasured, hwritten', hsame'⟩
  · obtain ⟨pool, hpool, hruns⟩ :=
      hpattern .plasma 2 1 ⟨0, _, rfl⟩ (by decide) (by decide) (by decide)
    obtain ⟨c, f, g, hc, hpicture, hg, hwrites⟩ := hruns (some 3) none false
    obtain ⟨measured, hmeasured, hrest⟩ := (hwrites c.init.vectorized Id _ hfair "plasma").exists_eq
    obtain ⟨written, hwritten, hsame⟩ := hrest.exists_eq
    exact ⟨pool, c.init, f, g, measured, written, hpool, hpicture, hg, hmeasured, hwritten, hsame⟩

end Session

end GlyphMosaic
