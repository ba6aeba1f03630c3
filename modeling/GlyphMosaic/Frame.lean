import GlyphMosaic.Color

/-!
# Pixel frames

A frame is a row-major array of pixels with a width and a height.  Coordinates are 32-bit numbers
and so is the position of a pixel in the array; where it would not fit its word the access is a
fault.  A new frame is a fault where its dimensions call for `2 ^ 61` pixels or more, of four bytes
each.
-/

namespace GlyphMosaic

/-- A rectangle of pixels, row by row. -/
structure Frame where
  /-- Pixels per row. -/
  width : UInt32
  /-- Number of rows. -/
  height : UInt32
  /-- The pixels, the first row first. -/
  pixels : Array Pixel

namespace Frame

/-- Opaque black. -/
def blackPixel : Pixel := 0xFF000000

/-- The full frame of one pixel value. -/
def uniform (width height : UInt32) (p : Pixel) : Frame :=
  ⟨width, height, Array.replicate (width.toNat * height.toNat) p⟩

/-- Makes a frame of one pixel value. -/
def filled (width height : UInt32) (p : Pixel) : Except Fault Frame := do
  let n ← roomFor 4 (width.toNat * height.toNat)
  return ⟨width, height, Array.replicate n p⟩

/-- Makes a black frame. -/
def black (width height : UInt32) : Except Fault Frame := filled width height blackPixel

/-- The pixel of a group of four bytes, which are red, green, blue and alpha. -/
def rgbaPixel (bytes : ByteArray) (group : Nat) : Pixel :=
  let color : Rgb :=
    ⟨bytes.get! (4 * group), bytes.get! (4 * group + 1), bytes.get! (4 * group + 2)⟩
  color.opaquePixel.withAlpha (bytes.get! (4 * group + 3))

/-- Writes pixel after pixel from position `i` on, four bytes each, until either the frame or the
complete groups of bytes end. -/
def overlayFrom (bytes : ByteArray) : (fuel i : Nat) → Array Pixel → Array Pixel
  | 0, _, pixels => pixels
  | fuel + 1, i, pixels =>
    overlayFrom bytes fuel (i + 1) (pixels.setIfInBounds i (rgbaPixel bytes i))

variable (f : Frame)

/-- The frame with the pixels of the complete groups of bytes; surplus bytes are ignored. -/
def overlaid (bytes : ByteArray) : Frame :=
  { f with pixels := overlayFrom bytes (min f.pixels.size (bytes.size / 4)) 0 f.pixels }

/-- The black frame with the pixels of some bytes over it. -/
def rgbaFrame (width height : UInt32) (bytes : ByteArray) : Frame :=
  (uniform width height blackPixel).overlaid bytes

/-- Makes a frame from red, green, blue and alpha bytes; missing pixels are black. -/
def ofRgba (width height : UInt32) (bytes : ByteArray) : Except Fault Frame := do
  let frame ← black width height
  return frame.overlaid bytes

/-- The array has a pixel for every place. -/
def IsFull : Prop := f.pixels.size = f.width.toNat * f.height.toNat

/-- The position of a pixel in the array. -/
def position (x y : UInt32) : Except Fault Nat := do
  let row ← fitting 32 (y.toNat * f.width.toNat)
  fitting 32 (row + x.toNat)

/-- The pixel at a place inside the frame; where the array is too short, `0`. -/
def pixel (x y : UInt32) : Except Fault Pixel :=
  if x < f.width && y < f.height then do
    let i ← f.position x y
    return f.pixels.getD i 0
  else .error .outOfRange

/-- Replaces a pixel; a position past the end of the array is ignored. -/
def set (x y : UInt32) (p : Pixel) : Except Fault Frame := do
  let i ← f.position x y
  return { f with pixels := f.pixels.setIfInBounds i p }

/-! ### Positions -/

theorem position_eq_ok {f : Frame} {x y : UInt32} {i : Nat} : f.position x y = .ok i ↔
    y.toNat * f.width.toNat + x.toNat < 2 ^ 32 ∧ i = y.toNat * f.width.toNat + x.toNat := by
  simp only [position, bind_eq_ok, fitting_eq_ok]
  constructor
  · rintro ⟨_, ⟨-, rfl⟩, hlt, rfl⟩
    exact ⟨hlt, rfl⟩
  · rintro ⟨hlt, rfl⟩
    exact ⟨_, ⟨by omega, rfl⟩, hlt, rfl⟩

/-! ### Room -/

section Room

variable {width height : UInt32} {p : Pixel} {bytes : ByteArray} {f : Frame}

theorem filled_of_lt (h : width.toNat * height.toNat < 2 ^ 61) (p : Pixel) :
    filled width height p = .ok (uniform width height p) := by
  rw [filled, roomFor_of_lt (by omega)]
  rfl

theorem filled_of_le (h : 2 ^ 61 ≤ width.toNat * height.toNat) (p : Pixel) :
    filled width height p = .error .noRoom := by
  rw [filled, roomFor_of_le (by omega)]
  rfl

theorem filled_eq_ok : filled width height p = .ok f ↔
    width.toNat * height.toNat < 2 ^ 61 ∧ uniform width height p = f := by
  rcases Nat.lt_or_ge (width.toNat * height.toNat) (2 ^ 61) with h | h
  · rw [filled_of_lt h, Except.ok.injEq]
    exact (and_iff_right h).symm
  · rw [filled_of_le h]
    exact ⟨fun hf => (nomatch hf), fun hf => absurd hf.1 (Nat.not_lt.2 h)⟩

theorem ofRgba_eq_ok : ofRgba width height bytes = .ok f ↔
    width.toNat * height.toNat < 2 ^ 61 ∧ rgbaFrame width height bytes = f := by
  simp only [ofRgba, black, bind_eq_ok, filled_eq_ok, pure_eq_ok, Except.ok.injEq]
  constructor
  · rintro ⟨_, ⟨hlt, rfl⟩, rfl⟩
    exact ⟨hlt, rfl⟩
  · rintro ⟨hlt, rfl⟩
    exact ⟨_, ⟨hlt, rfl⟩, rfl⟩

theorem ofRgba_of_lt (h : width.toNat * height.toNat < 2 ^ 61) (bytes : ByteArray) :
    ofRgba width height bytes = .ok (rgbaFrame width height bytes) :=
  ofRgba_eq_ok.2 ⟨h, rfl⟩

theorem ofRgba_of_le (h : 2 ^ 61 ≤ width.toNat * height.toNat) (bytes : ByteArray) :
    ofRgba width height bytes = .error .noRoom := by
  rw [ofRgba, black, filled_of_le h, error_bind]

end Room

/-! ### Sizes -/

@[simp] theorem size_pixels_uniform (width height : UInt32) (p : Pixel) :
    (uniform width height p).pixels.size = width.toNat * height.toNat := by
  simp [uniform]

@[simp] theorem size_overlayFrom (bytes : ByteArray) (fuel i : Nat) (pixels : Array Pixel) :
    (overlayFrom bytes fuel i pixels).size = pixels.size := by
  induction fuel generalizing i pixels with
  | zero => rfl
  | succ fuel ih => rw [overlayFrom, ih, Array.size_setIfInBounds]

theorem isFull_uniform (width height : UInt32) (p : Pixel) : (uniform width height p).IsFull :=
  size_pixels_uniform width height p

/-- A frame has its pixels, whatever the number of bytes it was made from. -/
@[simp] theorem size_pixels_rgbaFrame (width height : UInt32) (bytes : ByteArray) :
    (rgbaFrame width height bytes).pixels.size = width.toNat * height.toNat := by
  simp [rgbaFrame, overlaid]

theorem isFull_of_ofRgba {width height : UInt32} {bytes : ByteArray} {f : Frame}
    (h : ofRgba width height bytes = .ok f) : f.IsFull := by
  obtain ⟨-, rfl⟩ := ofRgba_eq_ok.1 h
  exact size_pixels_rgbaFrame width height bytes

end Frame

end GlyphMosaic
