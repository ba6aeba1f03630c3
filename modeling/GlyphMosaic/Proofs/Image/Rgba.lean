import GlyphMosaic.Frame
import GlyphMosaic.Proofs.RowMajor

/-!
# Frames from bytes

* `Frame.getElem?_rgbaFrame` : every pixel of a frame that is made from bytes.
* `Frame.rgbaFrame_congr` : only the complete groups of four bytes that have a place in the frame
  count.
* `Frame.rgba_rgbaFrame` : a frame gives back the bytes that it was made from.
* `Frame.ofRgba_fills` : **bytes fill a frame as far as they go, and nothing of them is lost or
  altered**, where there is room for the frame.
-/

namespace GlyphMosaic

/-- The four bytes of a pixel. -/
def Pixel.rgba (p : Pixel) : List UInt8 := [p.rgb.r, p.rgb.g, p.rgb.b, p.alpha]

namespace Frame

/-- The bytes of all pixels, one pixel after the other. -/
def rgba (f : Frame) : List UInt8 := f.pixels.toList.flatMap Pixel.rgba

variable {bytes bytes' : ByteArray} {width height : UInt32}

/-! ### Groups of bytes -/

theorem rgba_rgbaPixel (bytes : ByteArray) (i : Nat) :
    (rgbaPixel bytes i).rgba = [bytes.get! (4 * i), bytes.get! (4 * i + 1), bytes.get! (4 * i + 2),
      bytes.get! (4 * i + 3)] := by
  rw [rgbaPixel, Pixel.withAlpha_opaquePixel, Pixel.rgba, Pixel.rgb_ofBytes, Pixel.alpha_ofBytes]

theorem getElem?_data_of_lt {i : Nat} (h : i < bytes.size) :
    bytes.data[i]? = some (bytes.get! i) := by
  have hdata : i < bytes.data.size := h
  change _ = some (bytes.data[i]!)
  rw [Array.getElem?_eq_getElem hdata, getElem!_pos bytes.data i hdata]

theorem rgbaPixel_congr {i : Nat} (h : ∀ k < 4 * i + 4, bytes.get! k = bytes'.get! k) :
    rgbaPixel bytes i = rgbaPixel bytes' i := by
  simp only [rgbaPixel, h (4 * i) (by omega), h (4 * i + 1) (by omega), h (4 * i + 2) (by omega),
    h (4 * i + 3) (by omega)]

theorem getElem?_overlayFrom (bytes : ByteArray) (fuel i : Nat) (pixels : Array Pixel) (j : Nat) :
    (overlayFrom bytes fuel i pixels)[j]? =
      if i ≤ j ∧ j < i + fuel ∧ j < pixels.size then some (rgbaPixel bytes j) else pixels[j]? := by
  induction fuel generalizing i pixels with
  | zero => rw [overlayFrom, if_neg (by omega)]
  | succ fuel ih =>
    rw [overlayFrom, ih, Array.size_setIfInBounds, Array.getElem?_setIfInBounds]
    by_cases hj : i = j
    · subst hj
      by_cases hsize : i < pixels.size
      · rw [if_neg (by omega), if_pos rfl, if_pos hsize, if_pos (by omega)]
      · rw [if_neg (by omega), if_pos rfl, if_neg hsize, if_neg (by omega),
          Array.getElem?_eq_none (by omega)]
    · rw [if_neg hj]
      congr 1
      exact propext (by omega)

/-- The pixels of a frame that is made from bytes: the groups as far as they go, and black behind
them. -/
theorem getElem?_rgbaFrame (width height : UInt32) (bytes : ByteArray) {i : Nat}
    (hi : i < width.toNat * height.toNat) : (rgbaFrame width height bytes).pixels[i]? =
      some (if i < bytes.size / 4 then rgbaPixel bytes i else blackPixel) := by
  have hblack : (uniform width height blackPixel).pixels =
      Array.replicate (width.toNat * height.toNat) blackPixel := rfl
  rw [rgbaFrame, overlaid, getElem?_overlayFrom, hblack, Array.size_replicate]
  split
  · rw [if_pos (by omega)]
  · rw [if_neg (by omega), Array.getElem?_replicate, if_pos hi]

/-- Two byte strings make the same frame if they have as many complete groups in it and agree on
these. -/
theorem rgbaFrame_congr
    (hgroups : min (width.toNat * height.toNat) (bytes.size / 4) =
      min (width.toNat * height.toNat) (bytes'.size / 4))
    (hbytes : ∀ k < 4 * min (width.toNat * height.toNat) (bytes.size / 4),
      bytes.get! k = bytes'.get! k) :
    rgbaFrame width height bytes = rgbaFrame width height bytes' := by
  have hpixels : (rgbaFrame width height bytes).pixels =
      (rgbaFrame width height bytes').pixels := by
    apply Array.ext_getElem?
    intro i
    by_cases hi : i < width.toNat * height.toNat
    · rw [getElem?_rgbaFrame width height bytes hi, getElem?_rgbaFrame width height bytes' hi]
      by_cases hgroup : i < bytes.size / 4
      · rw [if_pos hgroup, if_pos (by omega), rgbaPixel_congr fun k hk => hbytes k (by omega)]
      · rw [if_neg hgroup, if_neg (by omega)]
    · rw [Array.getElem?_eq_none (by rw [size_pixels_rgbaFrame]; omega),
        Array.getElem?_eq_none (by rw [size_pixels_rgbaFrame]; omega)]
  exact congrArg (Frame.mk width height) hpixels

theorem get!_append_of_lt {surplus : ByteArray} {k : Nat} (h : k < bytes.size) :
    (bytes ++ surplus).get! k = bytes.get! k := by
  have hdata : (bytes ++ surplus).data[k]? = bytes.data[k]? := by
    rw [ByteArray.data_append, Array.getElem?_append_left h]
  have hlt : k < (bytes ++ surplus).size := by
    rw [ByteArray.size_append]
    omega
  rw [getElem?_data_of_lt h, getElem?_data_of_lt hlt] at hdata
  exact Option.some.inj hdata

/-- Bytes that complete no group, and bytes behind a complete frame, do not count. -/
theorem rgbaFrame_append {surplus : ByteArray} (h : bytes.size % 4 + surplus.size < 4 ∨
    4 * (width.toNat * height.toNat) ≤ bytes.size) :
    rgbaFrame width height (bytes ++ surplus) = rgbaFrame width height bytes := by
  have hsize : (bytes ++ surplus).size = bytes.size + surplus.size := ByteArray.size_append
  refine (rgbaFrame_congr (by omega) fun k hk => ?_).symm
  exact (get!_append_of_lt (by omega)).symm

/-! ### Back to bytes -/

theorem firstValues_get! (bytes : ByteArray) : firstValues bytes.get! bytes.size = bytes.data := by
  apply Array.ext_getElem?
  intro i
  by_cases hi : i < bytes.size
  · rw [getElem?_firstValues _ hi, getElem?_data_of_lt hi]
  · have hdata : bytes.data.size ≤ i := Nat.not_lt.1 hi
    rw [Array.getElem?_eq_none hdata,
      Array.getElem?_eq_none (by rwa [size_firstValues, ← Nat.not_lt])]

theorem pixels_rgbaFrame_of_le (h : width.toNat * height.toNat ≤ bytes.size / 4) :
    (rgbaFrame width height bytes).pixels =
      firstValues (rgbaPixel bytes) (width.toNat * height.toNat) := by
  apply Array.ext_getElem?
  intro i
  by_cases hi : i < width.toNat * height.toNat
  · rw [getElem?_rgbaFrame width height bytes hi, if_pos (by omega), getElem?_firstValues _ hi]
  · rw [Array.getElem?_eq_none (by rw [size_pixels_rgbaFrame]; omega),
      Array.getElem?_eq_none (by rw [size_firstValues]; omega)]

theorem rgba_rgbaFrame (h : bytes.size = 4 * (width.toNat * height.toNat)) :
    (rgbaFrame width height bytes).rgba = bytes.data.toList := by
  have hgroup : ∀ i, (rgbaPixel bytes i).rgba =
      (List.range 4).map fun k => bytes.get! (4 * i + k) := rgba_rgbaPixel bytes
  have hplace : ∀ j, 4 * (j / 4) + j % 4 = j := fun j => Nat.div_add_mod j 4
  have hrows := flatMap_rows (fun i k => bytes.get! (4 * i + k)) (width.toNat * height.toNat) 4
  simp only [hplace] at hrows
  rw [rgba, pixels_rgbaFrame_of_le (by omega), toList_firstValues, List.flatMap_map]
  simp only [hgroup]
  rw [← firstValues_get!, h, Nat.mul_comm 4]
  exact congrArg Array.toList hrows

/-- A frame is made from bytes: each pixel takes its channels from a group of four bytes, which are
red, green, blue and alpha, and pixels without a group are black. -/
structure IsMadeOf (f : Frame) (width height : UInt32) (bytes : ByteArray) : Prop where
  width_eq : f.width = width
  height_eq : f.height = height
  size_eq : f.pixels.size = width.toNat * height.toNat
  filled : ∀ i < min (width.toNat * height.toNat) (bytes.size / 4), ∃ p, f.pixels[i]? = some p ∧
    bytes.data[4 * i]? = some p.rgb.r ∧ bytes.data[4 * i + 1]? = some p.rgb.g ∧
    bytes.data[4 * i + 2]? = some p.rgb.b ∧ bytes.data[4 * i + 3]? = some p.alpha
  missing : ∀ i, bytes.size / 4 ≤ i → i < width.toNat * height.toNat →
    f.pixels[i]? = some blackPixel

theorem isMadeOf_rgbaFrame (width height : UInt32) (bytes : ByteArray) :
    (rgbaFrame width height bytes).IsMadeOf width height bytes where
  width_eq := rfl
  height_eq := rfl
  size_eq := size_pixels_rgbaFrame width height bytes
  filled := by
    intro i hi
    have hrgba := rgba_rgbaPixel bytes i
    simp only [Pixel.rgba, List.cons.injEq, and_true] at hrgba
    obtain ⟨hr, hg, hb, halpha⟩ := hrgba
    refine ⟨rgbaPixel bytes i, ?_, ?_, ?_, ?_, ?_⟩
    · rw [getElem?_rgbaFrame width height bytes (by omega), if_pos (by omega)]
    · rw [hr, getElem?_data_of_lt (by omega)]
    · rw [hg, getElem?_data_of_lt (by omega)]
    · rw [hb, getElem?_data_of_lt (by omega)]
    · rw [halpha, getElem?_data_of_lt (by omega)]
  missing := by
    intro i hle hi
    rw [getElem?_rgbaFrame width height bytes hi, if_neg (by omega)]

/-- **Bytes fill a frame as far as they go.**  There is such a frame exactly if it has fewer than
`2 ^ 61` pixels.  Surplus bytes, whether they complete no group or find no pixel, change nothing;
and of a byte for each channel of each pixel nothing is lost. -/
theorem ofRgba_fills (width height : UInt32) (bytes : ByteArray) :
    (2 ^ 61 ≤ width.toNat * height.toNat → ofRgba width height bytes = .error .noRoom) ∧
    (width.toNat * height.toNat < 2 ^ 61 → ∃ f, ofRgba width height bytes = .ok f ∧
      f.IsMadeOf width height bytes ∧
      (∀ surplus : ByteArray, bytes.size % 4 + surplus.size < 4 ∨
          4 * (width.toNat * height.toNat) ≤ bytes.size →
        ofRgba width height (bytes ++ surplus) = .ok f) ∧
      (bytes.size = 4 * (width.toNat * height.toNat) → f.rgba = bytes.data.toList)) := by
  refine ⟨fun hle => ofRgba_of_le hle bytes, fun hlt => ?_⟩
  refine ⟨rgbaFrame width height bytes, ofRgba_of_lt hlt bytes,
    isMadeOf_rgbaFrame width height bytes, fun surplus hsurplus => ?_, rgba_rgbaFrame⟩
  rw [ofRgba_of_lt hlt, rgbaFrame_append hsurplus]

/-- Two pixels of which one is half transparent, and the same with another pixel and a half behind
them. -/
theorem ofRgba_fills_two :
    let bytes : ByteArray := ⟨#[255, 0, 10, 128, 0, 20, 255, 255]⟩
    let surplus : ByteArray := ⟨#[1, 2, 3, 4, 5, 6]⟩
    ∃ f, ofRgba 2 1 bytes = .ok f ∧ ofRgba 2 1 (bytes ++ surplus) = .ok f ∧
      f.rgba = [255, 0, 10, 128, 0, 20, 255, 255] ∧ f.pixels = #[0x80FF000A, 0xFF0014FF] := by
  intro bytes surplus
  obtain ⟨f, hf, -, hsurplus, hrgba⟩ := (ofRgba_fills 2 1 bytes).2 (by decide)
  have hpixels : (rgbaFrame 2 1 bytes).pixels = #[0x80FF000A, 0xFF0014FF] := by decide
  rw [(ofRgba_eq_ok.1 hf).2] at hpixels
  exact ⟨f, hf, hsurplus surplus (.inr (by decide)), hrgba rfl, hpixels⟩

/-- There is no room for `2 ^ 61` pixels, whatever there is to fill them with. -/
theorem ofRgba_without_room : ofRgba 2147483648 1073741824 .empty = .error .noRoom :=
  ofRgba_of_le (by decide) .empty

end Frame

end GlyphMosaic
