import GlyphMosaic.Image.Format
import GlyphMosaic.Proofs.Converter.FrameRuns
import GlyphMosaic.Proofs.Settings.Ranges

/-!
# Frames and settings that go together

Settings that were clamped make a converter, and such a converter converts every frame with an
extent and all its pixels.

* `Frame.IsCovered` : the frames that have all their pixels, and may have more.
* `Frame.IsUsable`, `ImageFormat.isUsable_of_decode` : so is every picture that is read, if it has
  an extent and fewer pixels than fit 32 bits.
* `Converter.FitsInto` : the extent of the output and the room for it; `Converter.FitsInto.jobOf`
  says that there is no reason then to skip a frame.
* `Converter.exists_ofSettings_clamp`, `Converter.exists_ofSettings_resolve` : there is a converter.
* `Converter.exists_conversion` : **it converts every usable frame**.
* `Converter.conversion?_of_showsLike` : settings that show frames alike lead to the same grid, in
  both modes.
-/

namespace GlyphMosaic

/-! ### Usable frames -/

/-- The frame has an extent and at least its pixels, which are fewer than fit 32 bits. -/
structure Frame.IsCovered (f : Frame) : Prop where
  width_ne : f.width ≠ 0
  height_ne : f.height ≠ 0
  size_lt : f.width.toNat * f.height.toNat < 2 ^ 32
  size_le : f.width.toNat * f.height.toNat ≤ f.pixels.size

theorem Frame.IsCovered.isModerate {f : Frame} (hf : f.IsCovered) : f.IsModerate :=
  Nat.lt_of_le_of_lt (Nat.min_le_right _ _) hf.size_lt

/-- The frame has an extent and all its pixels, which are fewer than fit 32 bits. -/
structure Frame.IsUsable (f : Frame) : Prop where
  width_ne : f.width ≠ 0
  height_ne : f.height ≠ 0
  size_lt : f.width.toNat * f.height.toNat < 2 ^ 32
  isFull : f.IsFull

theorem Frame.IsUsable.isCovered {f : Frame} (hf : f.IsUsable) : f.IsCovered :=
  ⟨hf.width_ne, hf.height_ne, hf.size_lt, Nat.le_of_eq hf.isFull.symm⟩

theorem Frame.IsUsable.isModerate {f : Frame} (hf : f.IsUsable) : f.IsModerate :=
  hf.isCovered.isModerate

theorem Png.isFull_of_decode {file : ByteArray} {f : Frame} (h : Png.decode file = .ok (some f)) :
    f.IsFull := by
  unfold Png.decode at h
  split at h
  · dsimp only at h
    split at h
    · split at h
      · cases h
      · obtain ⟨colors, -, h⟩ := bind_eq_ok.1 h
        split at h
        · cases h
        · split at h
          · obtain ⟨_, hframe, hsome⟩ := map_eq_ok.1 h
            cases hsome
            exact Frame.isFull_of_ofRgba hframe
          · cases h
    · cases h
  · cases h

theorem Bmp.isFull_of_decode {file : ByteArray} {f : Frame} (h : Bmp.decode file = .ok (some f)) :
    f.IsFull := by
  unfold Bmp.decode at h
  split at h
  · split at h
    · obtain ⟨_, hframe, hsome⟩ := map_eq_ok.1 h
      cases hsome
      exact Frame.isFull_of_ofRgba hframe
    · cases h
  · cases h

theorem ImageFormat.isUsable_of_decode {format : ImageFormat} {file : ByteArray} {f : Frame}
    (h : format.decode file = .ok (some f)) (hwidth : f.width ≠ 0) (hheight : f.height ≠ 0)
    (hlt : f.width.toNat * f.height.toNat < 2 ^ 32) : f.IsUsable := by
  refine ⟨hwidth, hheight, hlt, ?_⟩
  cases format with
  | png => exact Png.isFull_of_decode h
  | bmp => exact Bmp.isFull_of_decode h
  | unread => cases h

/-! ### Converters of clamped settings -/

namespace Converter

variable {s : Settings} {c : Converter} {f : Frame}

theorem ofSettings_eq_ok (h : ofSettings s = .ok c) : c.settings = s ∧ c.capacity = s.maxCells := by
  obtain ⟨_, -, h⟩ := bind_eq_ok.1 h
  cases h
  exact ⟨rfl, rfl⟩

theorem exists_ofSettings (h : Palette.accepts s.charset = true) : ∃ c, ofSettings s = .ok c := by
  obtain ⟨p, hp⟩ := Palette.exists_ofString h
  exact ⟨_, bind_eq_ok.2 ⟨p, hp, rfl⟩⟩

theorem exists_ofSettings_clamp (s : Settings) : ∃ c, ofSettings s.clamp = .ok c :=
  exists_ofSettings (Palette.accepts_iff.2 (Settings.isInRange_clamp s).charset)

theorem exists_ofSettings_resolve (file : Option Settings.Layer) (l : Settings.Layer) :
    ∃ c, ofSettings (Settings.resolve file l) = .ok c := exists_ofSettings_clamp _

theorem init_settings (c : Converter) : c.init.settings = c.settings := by
  unfold init
  split <;> rfl

theorem init_capacity (c : Converter) : c.init.capacity = c.capacity := by
  unfold init
  split <;> rfl

/-- The output has the extent of some settings, and there is room for it. -/
structure FitsInto (c : Converter) (s : Settings) : Prop where
  outputWidth : c.settings.outputWidth = s.outputWidth
  outputHeight : c.settings.outputHeight = s.outputHeight
  capacity : c.capacity = s.maxCells

theorem fitsInto_ofSettings (h : ofSettings s = .ok c) : c.FitsInto s := by
  obtain ⟨rfl, hcapacity⟩ := ofSettings_eq_ok h
  exact ⟨rfl, rfl, hcapacity⟩

theorem FitsInto.init (hc : c.FitsInto s) : c.init.FitsInto s := by
  obtain ⟨hwidth, hheight, hcapacity⟩ := hc
  exact ⟨by rwa [init_settings], by rwa [init_settings], by rwa [init_capacity]⟩

theorem FitsInto.jobOf (hc : c.FitsInto s) (hs : s.IsInRange) (hf : f.IsCovered) :
    (c.jobOf f).cellCount = s.maxCells ∧ (c.jobOf f).cellCount ≤ c.capacity ∧
    (c.jobOf f).refusal? = none := by
  obtain ⟨hwidth, hheight, hcapacity⟩ := hc
  have hcount : (c.jobOf f).cellCount = s.maxCells := by
    simp only [Converter.jobOf, Job.cellCount, hwidth, hheight]
    rfl
  have hsource := mt UInt32.toNat_inj.1 hf.width_ne
  have hrows := mt UInt32.toNat_inj.1 hf.height_ne
  have hcolumns : 0 < c.settings.outputWidth.toNat := hwidth ▸ hs.outputWidth.1
  have hlines : 0 < c.settings.outputHeight.toNat := hheight ▸ hs.outputHeight.1
  refine ⟨hcount, by rw [hcount, hcapacity], ?_⟩
  exact Job.refusal?_eq_none_of_pos (Nat.pos_of_ne_zero hsource) (Nat.pos_of_ne_zero hrows)
    hcolumns hlines hf.size_le

/-- Clamped settings have an extent and a converter has room for it, so that every usable frame is
converted. -/
theorem exists_conversion (h : ofSettings s.clamp = .ok c) (hf : f.IsUsable) :
    ∃ g, c.init.conversion? f = some g := by
  obtain ⟨-, hroom, hrefusal⟩ :=
    (fitsInto_ofSettings h).init.jobOf (Settings.isInRange_clamp s) hf.isCovered
  rw [(isCoherent_ofSettings h).init.conversion?_eq hf.isModerate, if_pos ⟨hroom, hrefusal⟩]
  exact ⟨_, rfl⟩

/-- New converters for settings that show frames alike convert them alike, in both modes. -/
theorem conversion?_of_showsLike {t : Settings} {c₀ : Converter} (hc : ofSettings s = .ok c)
    (hc₀ : ofSettings t = .ok c₀) (h : s.ShowsLike t) (hf : f.IsModerate) (on : Bool) :
    (c.init.setVectorized on).conversion? f = c₀.init.conversion? f := by
  obtain ⟨hsettings, hcapacity⟩ := ofSettings_eq_ok hc
  obtain ⟨hsettings₀, hcapacity₀⟩ := ofSettings_eq_ok hc₀
  refine (isCoherent_ofSettings hc₀).init.conversion?_congr
    ((isCoherent_ofSettings hc).init.setVectorized on) ?_ ?_ hf
  · change c.init.settings.ShowsLike _
    rwa [init_settings, init_settings, hsettings, hsettings₀]
  · change c.init.capacity = _
    rw [init_capacity, init_capacity, hcapacity, hcapacity₀, Settings.maxCells, h.outputWidth,
      h.outputHeight, Settings.maxCells]

end Converter

end GlyphMosaic
