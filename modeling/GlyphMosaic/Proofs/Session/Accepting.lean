import GlyphMosaic.Proofs.Converter.Histories
import GlyphMosaic.Proofs.Converter.Usable
import GlyphMosaic.Proofs.Session.Benchmark
import GlyphMosaic.Proofs.Settings.Layers

/-!
# What settings in range are good for

Clamping settings leaves nothing to go wrong.  There is a converter for them, its grid has an
extent, and there is room for it whatever was called since.

* `Settings.IsConfigured` : the settings that files and options lead to.
* `Converter.FitsInto.of_becomes` : no call changes the extent of the output or the room for it.
* `Converter.Accepts` : every frame that has its pixels is converted, by itself or from a source.
* `Settings.clamp_accepts` : **clamped settings are in range, and their converters accept every
  frame**.
-/

namespace GlyphMosaic

namespace Settings

/-- The settings of a file, or of options over a file or over the defaults. -/
inductive IsConfigured : Settings → Prop where
  | file (l : Layer) : IsConfigured (ofFile l)
  | options (file : Option Layer) (o : Options) : IsConfigured (resolve file o.layer)

theorem IsConfigured.isInRange {s : Settings} (hs : s.IsConfigured) : s.IsInRange := by
  cases hs with
  | file l => exact isInRange_clamp _
  | options file o => exact isInRange_clamp _

end Settings

namespace Converter

variable {s : Settings} {c c' : Converter} {f : Frame}

theorem FitsInto.of_becomes (hc : c.FitsInto s) (h : c.Becomes c') : c'.FitsInto s := by
  obtain ⟨hwidth, hheight, hcapacity⟩ := hc
  cases h <;> exact ⟨hwidth, hheight, hcapacity⟩

theorem FitsInto.afterAll (hc : c.FitsInto s) {history : List Call}
    (h : c.afterAll history = .ok c') : c'.FitsInto s :=
  run_invariant (fun _ _ _ hd hcall => FitsInto.of_becomes hd (becomes_of_after hcall)) hc h

/-- A converter takes every frame, and so do sessions with it: the frame becomes `cells` cells, and
whatever source it comes from and whatever clocks there are, the grid of its conversion is
written. -/
structure Accepts (c : Converter) (cells : Nat) : Prop where
  convertFrame : ∀ f : Frame, f.IsCovered →
    ∀ r, ∃ c', c.convertFrame f r = .ok (.converted cells, c')
  convertOnce : ∀ (m : Type → Type) [Monad m] [LawfulMonad m] (watch : Stopwatch m), watch.IsFair →
    ∀ (σ : Type) [FrameSource σ] (source rest : σ) (f : Frame),
    FrameSource.next source = .ok (some (f, rest)) → f.IsCovered → ∀ format,
    Gives (Session.convertOnce watch format c source) fun (written, c', source') =>
      (∃ r, c.convertFrame f r = .ok (.converted cells, c')) ∧
      written = .ok (format.serialize c'.grid .empty).1 ∧ source' = rest

theorem IsCoherent.convertFrame_of_isCovered (hcoherent : c.IsCoherent) (hc : c.FitsInto s)
    (hs : s.IsInRange) (hf : f.IsCovered) (r : Reading) :
    ∃ c', c.convertFrame f r = .ok (.converted s.maxCells, c') := by
  obtain ⟨hcount, hroom, hrefusal⟩ := hc.jobOf hs hf
  obtain ⟨c', hconvert, -⟩ := hcoherent.convert hroom hrefusal (Job.isModerate_of_lt hf.size_lt) r
  exact ⟨c', hcount ▸ hconvert⟩

theorem IsCoherent.accepts (hcoherent : c.IsCoherent) (hc : c.FitsInto s) (hs : s.IsInRange) :
    c.Accepts s.maxCells where
  convertFrame f hf r := hcoherent.convertFrame_of_isCovered hc hs hf r
  convertOnce := by
    intro m _ _ watch hwatch σ _ source rest f hnext hf format
    refine (gives_of_eq_ok (P := (· = some (f, rest))) hnext rfl).bind ?_
    rintro _ rfl
    refine (Session.gives_convertTimed hwatch hcoherent hf.isModerate).bind ?_
    rintro ⟨outcome, c₁⟩ ⟨-, r, hconvert⟩
    obtain ⟨c₂, hconverted⟩ := hcoherent.convertFrame_of_isCovered hc hs hf r
    obtain ⟨rfl, -⟩ := Prod.mk.inj (Except.ok.inj (hconvert.symm.trans hconverted))
    exact gives_pure ⟨⟨r, hconvert⟩, rfl, rfl⟩

end Converter

/-- **Clamped settings are in range, and their converters accept every frame.**  Whatever the fields
were, clamping moves them into their ranges, changes nothing that is there already and nothing the
second time.  The settings of files and options are clamped, so that there is a converter for them,
and it accepts every frame, now and after any calls. -/
theorem Settings.clamp_accepts :
    (∀ s : Settings, s.clamp.IsInRange ∧
      (∃ n : Int, BinaryFormat.single.units?
        (BinaryFormat.single.decode s.clamp.gamma.bits.toNat) = some n ∧
        13421773 * 2 ^ 121 ≤ n ∧ n ≤ 4 * 2 ^ 149) ∧
      s.clamp.clamp = s.clamp ∧ (s.IsInRange → s.clamp = s) ∧ s.clamp.vectorized = s.vectorized ∧
      s.clamp.benchmark = s.benchmark) ∧
    ∀ s : Settings, s.IsConfigured → ∃ start, Converter.ofSettings s = .ok start ∧
      ∀ history c, start.afterAll history = .ok c → c.Accepts s.maxCells := by
  refine ⟨fun s => ⟨isInRange_clamp s, ⟨_, ?_, (isExponent_clampGamma s.gamma).units⟩,
    clamp_clamp s, fun h => h.clamp_eq, rfl, rfl⟩, fun s hs => ?_⟩
  · exact Binary32.units?_decode (isExponent_clampGamma s.gamma).finite
  · obtain ⟨start, hstart⟩ := Converter.exists_ofSettings_clamp s
    rw [hs.isInRange.clamp_eq] at hstart
    refine ⟨start, hstart, fun history c hafter => ?_⟩
    have hcoherent : c.IsCoherent :=
      Converter.HasHistory.isCoherent ⟨s, start, history, hstart, hafter⟩
    exact hcoherent.accepts ((Converter.fitsInto_ofSettings hstart).afterAll hafter) hs.isInRange

/-- The defaults stay as they are; and with a width of zero, a stopped converter that was refused a
palette takes a frame that has a pixel too many. -/
theorem Settings.clamp_accepts_stopped : default.clamp = default ∧ ∃ start c c' written r,
    Converter.ofSettings (resolve none ({ width := some 0 } : Options).layer) = .ok start ∧
    start.afterAll [.init, .shutdown, .setPalette "x" ⟨0x7fc00000⟩] = .ok c ∧
    c.convertFrame ⟨2, 1, #[1, 2, 3]⟩ Converter.stillReading = .ok (.converted 80, c') ∧
    (Session.convertOnce (.steady Converter.stillReading) .text c
      (Source.still ⟨2, 1, #[1, 2, 3]⟩)).run = .ok written ∧
    c.convertFrame ⟨2, 1, #[1, 2, 3]⟩ r = .ok (.converted 80, written.2.1) ∧
    written.1 = .ok (OutputFormat.text.serialize written.2.1.grid .empty).1 := by
  obtain ⟨hclamp, hconfigured⟩ := clamp_accepts
  obtain ⟨-, -, -, hdefault, -⟩ := hclamp default
  have hcovered : Frame.IsCovered ⟨2, 1, #[1, 2, 3]⟩ := ⟨by decide, by decide, by decide, by decide⟩
  refine ⟨hdefault ⟨by decide, ⟨by decide, by decide, by decide⟩, by decide, by decide, by decide⟩,
    ?_⟩
  obtain ⟨start, hstart, haccepts⟩ := hconfigured _ (.options none { width := some 0 })
  have hhistory : ∀ call ∈ [Converter.Call.init, .shutdown, .setPalette "x" ⟨0x7fc00000⟩],
      call.IsModerate := by
    simp [Converter.Call.IsModerate]
  obtain ⟨c, hafter, -⟩ := (Converter.isCoherent_ofSettings hstart).afterAll hhistory
  obtain ⟨hconvert, honce⟩ := haccepts _ c hafter
  obtain ⟨c', hc'⟩ := hconvert _ hcovered Converter.stillReading
  obtain ⟨written, hrun, ⟨r, hr⟩, hwritten, -⟩ :=
    (honce Id _ (Stopwatch.isFair_steady Converter.stillReading) Source
      (.still ⟨2, 1, #[1, 2, 3]⟩) _ _ rfl hcovered .text).exists_eq
  exact ⟨start, c, c', written, r, hstart, hafter, hc', hrun, hr, hwritten⟩

end GlyphMosaic
