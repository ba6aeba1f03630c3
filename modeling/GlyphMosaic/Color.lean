import GlyphMosaic.Fault

/-!
# Pixels and colours

A pixel is a 32-bit word with its alpha, red, green and blue bytes from the top.  `Rgb` keeps the
three colour bytes.  The luminance of a colour is a weighted sum of its channels with weights in
thousandths, divided by 1024 by a shift, so that pure white has luminance 249.
-/

namespace GlyphMosaic

/-- A pixel: alpha, red, green and blue from the top byte down. -/
abbrev Pixel := UInt32

/-- A colour of three 8-bit channels. -/
structure Rgb where
  /-- Red. -/
  r : UInt8
  /-- Green. -/
  g : UInt8
  /-- Blue. -/
  b : UInt8
  deriving DecidableEq

/-- Black. -/
def Rgb.black : Rgb := ⟨0, 0, 0⟩

/-- The three channels of a colour. -/
inductive Channel where
  | red
  | green
  | blue

/-- The byte of a pixel that holds a channel. -/
def Pixel.level (p : Pixel) : Channel → UInt8
  | .red => (p >>> 16).toUInt8
  | .green => (p >>> 8).toUInt8
  | .blue => p.toUInt8

/-- The alpha byte of a pixel. -/
def Pixel.alpha (p : Pixel) : UInt8 := (p >>> 24).toUInt8

/-- The colour of a pixel, without its alpha. -/
def Pixel.rgb (p : Pixel) : Rgb := ⟨p.level .red, p.level .green, p.level .blue⟩

/-- A pixel of four given bytes. -/
def Pixel.ofBytes (alpha r g b : UInt8) : Pixel :=
  (alpha.toUInt32 <<< 24) ||| (r.toUInt32 <<< 16) ||| (g.toUInt32 <<< 8) ||| b.toUInt32

/-- The opaque pixel of a colour. -/
def Rgb.opaquePixel (c : Rgb) : Pixel := Pixel.ofBytes 255 c.r c.g c.b

/-- A pixel with another alpha. -/
def Pixel.withAlpha (p : Pixel) (alpha : UInt8) : Pixel :=
  (alpha.toUInt32 <<< 24) ||| (p &&& 0x00FFFFFF)

/-- The weighted sum of three channel levels, in thousandths. -/
def weightedLevel (r g b : Nat) : Nat := 299 * r + 587 * g + 114 * b

/-- The luminance of three channel levels. -/
def luminance (r g b : Nat) : UInt8 := UInt8.ofNat (min (weightedLevel r g b / 1024) 255)

/-- The luminance of three 32-bit levels, where the weighted sum fits its word. -/
def wordLuminance (r g b : UInt32) : Except Fault UInt8 := do
  let _ ← fitting 32 (weightedLevel r.toNat g.toNat b.toNat)
  return luminance r.toNat g.toNat b.toNat

/-- The luminance of a colour. -/
def Rgb.luminance (c : Rgb) : UInt8 :=
  GlyphMosaic.luminance c.r.toNat c.g.toNat c.b.toNat

/-- The weighted sum of three bytes fits the word, so that the luminance of a colour may be computed
in it. -/
theorem wordLuminance_rgb (c : Rgb) :
    wordLuminance c.r.toUInt32 c.g.toUInt32 c.b.toUInt32 = .ok c.luminance := by
  have hr := c.r.toNat_lt
  have hg := c.g.toNat_lt
  have hb := c.b.toNat_lt
  have hfits : weightedLevel c.r.toNat c.g.toNat c.b.toNat < 2 ^ 32 := by
    unfold weightedLevel
    omega
  simp only [wordLuminance, UInt8.toNat_toUInt32, fitting_of_lt hfits, ok_bind]
  rfl

/-! ### The bytes of a pixel -/

theorem shiftLeft_or_of_lt {n bits : Nat} (h : n < 2 ^ bits) (m : Nat) :
    m <<< bits ||| n = m * 2 ^ bits + n := by
  rw [← Nat.shiftLeft_add_eq_or_of_lt h, Nat.shiftLeft_eq]

/-- A byte moved up within a word of 32 bits loses nothing. -/
theorem toNat_toUInt32_shiftLeft (v : UInt8) (s : UInt32) (bits : Nat) (hs : s.toNat = bits)
    (h : bits ≤ 24) : (v.toUInt32 <<< s).toNat = v.toNat <<< bits := by
  have hlt : v.toNat <<< bits < 2 ^ 32 := by
    rw [Nat.shiftLeft_eq]
    calc v.toNat * 2 ^ bits < 2 ^ 8 * 2 ^ bits :=
          Nat.mul_lt_mul_of_pos_right v.toNat_lt (Nat.two_pow_pos bits)
      _ ≤ 2 ^ 8 * 2 ^ 24 := Nat.mul_le_mul_left _ (Nat.pow_le_pow_right (by decide) h)
  rw [UInt32.toNat_shiftLeft, UInt8.toNat_toUInt32, hs, Nat.mod_eq_of_lt (by omega : bits < 32),
    Nat.mod_eq_of_lt hlt]

/-- The byte of a word of 32 bits at a place. -/
theorem toNat_shiftRight_toUInt8 (v s : UInt32) (bits : Nat) (hs : s.toNat = bits)
    (h : bits < 32) : (v >>> s).toUInt8.toNat = v.toNat / 2 ^ bits % 2 ^ 8 := by
  rw [UInt32.toNat_toUInt8, UInt32.toNat_shiftRight, hs, Nat.mod_eq_of_lt h,
    Nat.shiftRight_eq_div_pow]

namespace Pixel

variable (p : Pixel) (alpha r g b : UInt8)

theorem toNat_ofBytes : (ofBytes alpha r g b).toNat =
    alpha.toNat * 2 ^ 24 + (r.toNat * 2 ^ 16 + (g.toNat * 2 ^ 8 + b.toNat)) := by
  have hr := r.toNat_lt
  have hg := g.toNat_lt
  have hb := b.toNat_lt
  have hbytes : (ofBytes alpha r g b).toNat =
      alpha.toNat <<< 24 ||| (r.toNat <<< 16 ||| (g.toNat <<< 8 ||| b.toNat)) := by
    rw [ofBytes, UInt32.toNat_or, UInt32.toNat_or, UInt32.toNat_or, UInt8.toNat_toUInt32,
      Nat.or_assoc, Nat.or_assoc,
      toNat_toUInt32_shiftLeft alpha 24 24 rfl (by decide),
      toNat_toUInt32_shiftLeft r 16 16 rfl (by decide),
      toNat_toUInt32_shiftLeft g 8 8 rfl (by decide)]
  have hlow : g.toNat <<< 8 ||| b.toNat = g.toNat * 2 ^ 8 + b.toNat := shiftLeft_or_of_lt hb _
  have hmiddle : r.toNat <<< 16 ||| (g.toNat * 2 ^ 8 + b.toNat) =
      r.toNat * 2 ^ 16 + (g.toNat * 2 ^ 8 + b.toNat) := shiftLeft_or_of_lt (by omega) _
  rw [hbytes, hlow, hmiddle, shiftLeft_or_of_lt (by omega)]

theorem toNat_withAlpha :
    (p.withAlpha alpha).toNat = alpha.toNat * 2 ^ 24 + p.toNat % 2 ^ 24 := by
  have hshift : (alpha.toUInt32 <<< 24).toNat = alpha.toNat <<< 24 :=
    toNat_toUInt32_shiftLeft alpha 24 24 rfl (by decide)
  have hmask : (0x00FFFFFF : UInt32).toNat = 2 ^ 24 - 1 := rfl
  rw [withAlpha, UInt32.toNat_or, UInt32.toNat_and, hshift, hmask, Nat.and_two_pow_sub_one_eq_mod,
    shiftLeft_or_of_lt (Nat.mod_lt _ (by decide))]

/-- The opaque pixel of a colour, with another alpha, has the colour and this alpha. -/
theorem withAlpha_opaquePixel (c : Rgb) :
    c.opaquePixel.withAlpha alpha = ofBytes alpha c.r c.g c.b := by
  have hr := c.r.toNat_lt
  have hg := c.g.toNat_lt
  have hb := c.b.toNat_lt
  rw [← UInt32.toNat_inj, toNat_withAlpha, Rgb.opaquePixel, toNat_ofBytes, toNat_ofBytes]
  omega

@[simp] theorem alpha_ofBytes : (ofBytes alpha r g b).alpha = alpha := by
  have ha := alpha.toNat_lt
  have hr := r.toNat_lt
  have hg := g.toNat_lt
  have hb := b.toNat_lt
  rw [Pixel.alpha, ← UInt8.toNat_inj, toNat_shiftRight_toUInt8 _ 24 24 rfl (by decide),
    toNat_ofBytes]
  omega

/-- The colour of a pixel is that of its bytes. -/
@[simp] theorem rgb_ofBytes : (ofBytes alpha r g b).rgb = ⟨r, g, b⟩ := by
  have hr := r.toNat_lt
  have hg := g.toNat_lt
  have hb := b.toNat_lt
  have hred : (ofBytes alpha r g b).level .red = r := by
    rw [level, ← UInt8.toNat_inj, toNat_shiftRight_toUInt8 _ 16 16 rfl (by decide), toNat_ofBytes]
    omega
  have hgreen : (ofBytes alpha r g b).level .green = g := by
    rw [level, ← UInt8.toNat_inj, toNat_shiftRight_toUInt8 _ 8 8 rfl (by decide), toNat_ofBytes]
    omega
  have hblue : (ofBytes alpha r g b).level .blue = b := by
    rw [level, ← UInt8.toNat_inj, UInt32.toNat_toUInt8, toNat_ofBytes]
    omega
  rw [rgb, hred, hgreen, hblue]

end Pixel

end GlyphMosaic
