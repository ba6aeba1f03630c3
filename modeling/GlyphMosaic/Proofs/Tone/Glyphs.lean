import GlyphMosaic.Proofs.Converter.Coherence
import GlyphMosaic.Proofs.Reduction.Brightness
import GlyphMosaic.Proofs.Settings.Ranges

/-!
# The glyphs that colours are shown with

White has the luminance 249 of 255, and a level goes to its position in a palette by a division by
256.  Neither leaves a position out on the way up, but for long palettes both together end before
the last one.

* `exists_eq_of_succ_le` : what grows by one at most takes all values between two of its values.
* `exists_luminance_gray` : every luminance up to 249 is that of a gray.
* `Palette.brightest` : the position of white; `Palette.rank_le_brightest` and
  `Palette.exists_rank_eq` : colours have the positions up to it, each of them, and no other.
* `Palette.brightest_eq_iff` : it is the last one in palettes of at most 19 glyphs only.
* `Tables.ofCharset_shows` : **tables show the glyphs from the first one up to that of white**.
* `Tables.standard_without_densest` : the longest preset is never shown to its end.
-/

namespace GlyphMosaic

/-- What grows by one at most from one number to the next takes every value on its way. -/
theorem exists_eq_of_succ_le {f : Nat → Nat} {n k : Nat} (hstep : ∀ i < n, f (i + 1) ≤ f i + 1)
    (hfirst : f 0 ≤ k) (hlast : k ≤ f n) : ∃ i ≤ n, f i = k := by
  induction n with
  | zero => exact ⟨0, Nat.le_refl 0, Nat.le_antisymm hfirst hlast⟩
  | succ n ih =>
    by_cases hk : k ≤ f n
    · obtain ⟨i, hi, heq⟩ := ih (fun i hi => hstep i (by omega)) hk
      exact ⟨i, by omega, heq⟩
    · have := hstep n (by omega)
      exact ⟨n + 1, Nat.le_refl _, by omega⟩

/-! ### Luminances -/

/-- White. -/
def Rgb.white : Rgb := ⟨255, 255, 255⟩

theorem toNat_luminance_gray {v : Nat} (hv : v ≤ 255) :
    (luminance v v v).toNat = 1000 * v / 1024 := by
  have hsum : weightedLevel v v v = 1000 * v := by unfold weightedLevel; omega
  rw [toNat_luminance, hsum, Nat.min_eq_left (by omega)]

theorem Rgb.toNat_luminance_le (c : Rgb) : c.luminance.toNat ≤ 249 := by
  have hr := c.r.toNat_lt
  have hg := c.g.toNat_lt
  have hb := c.b.toNat_lt
  rw [Rgb.luminance, toNat_luminance]
  unfold weightedLevel
  omega

/-- Every luminance up to that of white is the luminance of a gray. -/
theorem exists_luminance_gray {level : Nat} (h : level ≤ 249) :
    ∃ v : UInt8, (Rgb.luminance ⟨v, v, v⟩).toNat = level := by
  obtain ⟨v, hv, hlevel⟩ : ∃ v ≤ 255, 1000 * v / 1024 = level :=
    exists_eq_of_succ_le (f := fun v => 1000 * v / 1024) (fun v _ => by omega) (by omega) (by omega)
  have hbyte : (UInt8.ofNat v).toNat = v := UInt8.toNat_ofNat_of_lt' (Nat.lt_succ_of_le hv)
  exact ⟨.ofNat v, by rw [Rgb.luminance, hbyte, toNat_luminance_gray hv, hlevel]⟩

/-! ### Positions -/

namespace Palette

theorem glyph_eq_getD {p : Palette} (position : Nat) :
    p.glyph position = p.glyphs.getD (min position (p.glyphs.size - 1)) ' ' := by
  have := p.two_le_size
  unfold glyph
  simp only [Array.getD_eq_getD_getElem?]
  rw [Array.getElem?_eq_getElem (by omega)]
  rfl

/-- The position of white in a palette of `size` glyphs. -/
def brightest (size : Nat) : Nat := (249 * (size - 1) + 127) / 256

variable {size : Nat}

/-- Up to the luminance of white nothing is cut off at the end of a palette. -/
theorem rank_eq (hpos : 1 ≤ size) (hle : size ≤ 256) {level : UInt8} (h : level.toNat ≤ 249) :
    rank size level = (level.toNat * (size - 1) + 127) / 256 := by
  have hlast : min (max size 1) 256 - 1 = size - 1 := by omega
  have hmul : level.toNat * (size - 1) ≤ 249 * (size - 1) := Nat.mul_le_mul_right _ h
  simp only [rank, hlast]
  omega

theorem rank_le_brightest (hpos : 1 ≤ size) (hle : size ≤ 256) {level : UInt8}
    (h : level.toNat ≤ 249) : rank size level ≤ brightest size := by
  have hmul : level.toNat * (size - 1) ≤ 249 * (size - 1) := Nat.mul_le_mul_right _ h
  rw [rank_eq hpos hle h, brightest]
  omega

theorem exists_rank_eq (hpos : 1 ≤ size) (hle : size ≤ 256) {position : Nat}
    (h : position ≤ brightest size) :
    ∃ level : UInt8, level.toNat ≤ 249 ∧ rank size level = position := by
  have hstep : ∀ v, ((v + 1) * (size - 1) + 127) / 256 ≤ (v * (size - 1) + 127) / 256 + 1 := by
    intro v
    rw [Nat.add_one_mul]
    omega
  obtain ⟨v, hv, hposition⟩ : ∃ v ≤ 249, (v * (size - 1) + 127) / 256 = position :=
    exists_eq_of_succ_le (fun v _ => hstep v) (by simp) h
  have hbyte : (UInt8.ofNat v).toNat = v :=
    UInt8.toNat_ofNat_of_lt' (Nat.lt_of_le_of_lt hv (by decide))
  exact ⟨.ofNat v, by rwa [hbyte], by rw [rank_eq hpos hle (by rwa [hbyte]), hbyte, hposition]⟩

/-- White has the last position in short palettes only. -/
theorem brightest_eq_iff (hpos : 1 ≤ size) : brightest size = size - 1 ↔ size ≤ 19 := by
  unfold brightest
  omega

end Palette

/-! ### Tables -/

namespace Tables

/-- Colours are shown with some glyphs, black with the first one and white with the one at the
position `top`, up to which there is a colour for each of them; no colour is shown with a later
one. -/
structure ShowsUpTo (t : Tables) (glyphs : List Char) (top : Nat) : Prop where
  black : glyphs[0]? = some (t.cell .black).glyph
  white : glyphs[top]? = some (t.cell .white).glyph
  reached : ∀ i ≤ top, ∃ c, glyphs[i]? = some (t.cell c).glyph
  bounded : ∀ c, ∃ i ≤ top, glyphs[i]? = some (t.cell c).glyph

variable {t : Tables} {charset : String} {gamma : Binary32}

theorem getElem?_rank (h : ofCharset charset gamma = .ok t) (c : Rgb) :
    charset.toList[Palette.rank charset.length c.luminance]? = some (t.cell c).glyph := by
  have hglyphs : t.palette.glyphs = charset.toList.toArray :=
    Palette.glyphs_of_ofString (ofCharset_eq_ok.1 h).1
  have hsize : t.palette.size = charset.length := by
    rw [Palette.size, hglyphs, List.size_toArray, String.length_toList]
  have hlt : Palette.rank charset.length c.luminance < charset.toList.length := by
    rw [String.length_toList, ← hsize]
    exact t.palette.rank_lt_size c.luminance
  have hglyph : (t.cell c).glyph = t.palette.glyph (Palette.rank charset.length c.luminance) := by
    rw [← hsize]
    rfl
  rw [hglyph, Palette.glyph_eq_getD, hglyphs, List.size_toArray, Nat.min_eq_left (by omega),
    Array.getD_eq_getD_getElem?, List.getElem?_toArray, List.getElem?_eq_getElem hlt,
    Option.getD_some]

theorem showsUpTo_brightest (h : ofCharset charset gamma = .ok t) (hpos : 1 ≤ charset.length)
    (hle : charset.length ≤ 256) :
    t.ShowsUpTo charset.toList (Palette.brightest charset.length) where
  black := by
    have hrank : Palette.rank charset.length Rgb.black.luminance = 0 := by
      rw [Palette.rank_eq hpos hle (by decide)]
      simp [show Rgb.black.luminance.toNat = 0 from rfl]
    rw [← hrank]
    exact getElem?_rank h .black
  white := by
    have hrank : Palette.rank charset.length Rgb.white.luminance =
        Palette.brightest charset.length :=
      Palette.rank_eq hpos hle (by decide)
    rw [← hrank]
    exact getElem?_rank h .white
  reached := by
    intro i hi
    obtain ⟨level, hlevel, rfl⟩ := Palette.exists_rank_eq hpos hle hi
    obtain ⟨v, hv⟩ := exists_luminance_gray hlevel
    have hgray := getElem?_rank h ⟨v, v, v⟩
    rw [UInt8.toNat_inj.1 hv] at hgray
    exact ⟨_, hgray⟩
  bounded := fun c =>
    ⟨_, Palette.rank_le_brightest hpos hle c.toNat_luminance_le, getElem?_rank h c⟩

/-- **Tables show the glyphs of their charset from the first one, which is that of black, up to that
of white**, whatever the exponent; this is the last one if there are at most 19 glyphs, and
otherwise the densest glyphs are left. -/
theorem ofCharset_shows {charset : String} (h : Palette.accepts charset) (gamma : Binary32) :
    ∃ t, ofCharset charset gamma = .ok t ∧
      t.ShowsUpTo charset.toList (Palette.brightest charset.length) ∧
      (Palette.brightest charset.length = charset.length - 1 ↔ charset.length ≤ 19) := by
  obtain ⟨htwo, hle⟩ := Palette.accepts_iff.1 h
  obtain ⟨p, hp⟩ := Palette.exists_ofString h
  have ht : ofCharset charset gamma = .ok ⟨p, .ofGamma gamma⟩ := ofCharset_eq_ok.2 ⟨hp, rfl⟩
  exact ⟨_, ht, showsUpTo_brightest ht (by omega) hle, Palette.brightest_eq_iff (by omega)⟩

/-- With the ten glyphs of the default, white is shown with the densest one. -/
theorem ofCharset_shows_compact : Palette.accepts Palette.compact ∧
    ∃ t, ofCharset Palette.compact defaultGamma = .ok t ∧ (t.cell .black).glyph = ' ' ∧
      (t.cell .white).glyph = '@' ∧
      ∀ i ≤ 9, ∃ c, Palette.compact.toList[i]? = some (t.cell c).glyph := by
  have haccepts : Palette.accepts Palette.compact := rfl
  obtain ⟨t, ht, hshows, -⟩ := ofCharset_shows haccepts defaultGamma
  exact ⟨haccepts, t, ht, (Option.some.inj hshows.black).symm, (Option.some.inj hshows.white).symm,
    hshows.reached⟩

/-- The longest preset has 69 glyphs.  White is shown with the 67th of them, so that no colour is
shown with the last two. -/
theorem standard_without_densest : ∃ t, ofCharset Palette.standard defaultGamma = .ok t ∧
    Palette.standard.toList.drop 66 = ['B', '@', '$'] ∧ (t.cell .white).glyph = 'B' ∧
    ∀ c, (t.cell c).glyph ≠ '@' ∧ (t.cell c).glyph ≠ '$' := by
  obtain ⟨p, hp⟩ : ∃ p, Palette.ofString Palette.standard = .ok p := ⟨_, rfl⟩
  have ht : ofCharset Palette.standard defaultGamma = .ok ⟨p, .ofGamma defaultGamma⟩ :=
    ofCharset_eq_ok.2 ⟨hp, rfl⟩
  have hshows := showsUpTo_brightest ht (by decide) (by decide)
  -- neither glyph stands at a position up to that of white
  have hothers : ∀ i ≤ 66, Palette.standard.toList[i]? ≠ some '@' ∧
      Palette.standard.toList[i]? ≠ some '$' := by decide
  refine ⟨_, ht, by decide, (Option.some.inj hshows.white).symm, fun c => ?_⟩
  obtain ⟨i, hi, hglyph⟩ := hshows.bounded c
  have hi66 : i ≤ 66 := hi
  obtain ⟨hat, hdollar⟩ := hothers i hi66
  rw [hglyph] at hat hdollar
  exact ⟨fun h => hat (congrArg some h), fun h => hdollar (congrArg some h)⟩

end Tables

end GlyphMosaic
