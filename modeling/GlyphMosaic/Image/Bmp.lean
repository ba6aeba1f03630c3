import GlyphMosaic.Frame
import GlyphMosaic.Image.Bytes

/-!
# Bitmap images

A file starts with a header that says where the pixels are, and a description of the picture.
Pictures of three or four bytes per pixel without compression are read.  The bytes of a pixel are a
number, and the channels are bits of it: usually eight each, blue lowest, but the masks of a longer
description may tell otherwise.  The last row comes first, unless the height is negative, and the
length of a row is a multiple of four bytes.  The shortest description has dimensions of two bytes,
and knows three bytes per pixel only.
-/

namespace GlyphMosaic

namespace Bmp

/-! ### Channels -/

/-- Consecutive bits of a pixel. -/
structure Channel where
  /-- The number of bits below. -/
  shift : Nat
  /-- The number of bits, at most eight. -/
  size : Nat

namespace Channel

/-- The channel with the bits of a mask, which are consecutive; of more than eight bits the highest
count, and where there are none there is no channel. -/
def ofMask? (mask : Nat) : Option (Option Channel) :=
  let bits := (List.range 32).filter mask.testBit
  match bits.head? with
  | none => some none
  | some shift =>
    let size := bits.length
    if mask / 2 ^ shift + 1 ≠ 2 ^ size then none
    else some (some ⟨shift + (size - 8), min size 8⟩)

/-- The value in a pixel, from 0 to 255 and rounded to nearest. -/
def read (c : Channel) (pixel : Nat) : UInt8 :=
  let greatest := 2 ^ c.size - 1
  ((2 * 255 * (pixel / 2 ^ c.shift % 2 ^ c.size) + greatest) / (2 * greatest)).toUInt8

end Channel

/-- Where the channels of a pixel are. -/
structure Layout where
  /-- Red. -/
  red : Channel
  /-- Green. -/
  green : Channel
  /-- Blue. -/
  blue : Channel
  /-- Opacity; without it pixels are opaque. -/
  alpha : Option Channel

namespace Layout

/-- Eight bits each, blue lowest. -/
def plain : Layout := ⟨⟨16, 8⟩, ⟨8, 8⟩, ⟨0, 8⟩, none⟩

/-- The layout with some masks.  There has to be one for every colour. -/
def ofMasks? (red green blue alpha : Nat) : Option Layout := do
  let red ← (← Channel.ofMask? red)
  let green ← (← Channel.ofMask? green)
  let blue ← (← Channel.ofMask? blue)
  return ⟨red, green, blue, ← Channel.ofMask? alpha⟩

/-- The red, green, blue and alpha of a pixel. -/
def read (l : Layout) (pixel : Nat) : List UInt8 :=
  [l.red.read pixel, l.green.read pixel, l.blue.read pixel, l.alpha.elim 255 (·.read pixel)]

end Layout

/-! ### Headers -/

/-- What the header and the description say. -/
structure Header where
  /-- Where the pixels are. -/
  start : Nat
  /-- Pixels per row. -/
  width : Nat
  /-- Number of rows. -/
  height : Nat
  /-- The first row comes first. -/
  topDown : Bool
  /-- Bytes per pixel. -/
  step : Nat
  /-- Where the channels of a pixel are. -/
  layout : Layout

namespace Header

/-- The length of the shortest description. -/
def shortSize : Nat := 12

/-- The other lengths that a description can have. -/
def longSizes : List Nat := [40, 52, 56, 108, 124]

/-- Descriptions of this length on have a mask for the opacity. -/
def alphaSize : Nat := 56

/-- No dimension is greater. -/
def maxExtent : Int := 0xFFFF

/-- A signed number of 32 bits. -/
def signed (n : Nat) : Int := if n < 2 ^ 31 then n else n - 2 ^ 32

/-- The header with some dimensions, which are not zero. -/
def of? (start : Nat) (width height : Int) (depth : Nat) (layout : Layout) : Option Header :=
  if 0 < width && width ≤ maxExtent && height ≠ 0 && height ≤ maxExtent then
    some ⟨start, width.toNat, height.natAbs, height < 0, depth / 8, layout⟩
  else none

/-- The header at the front of a file.  There is one plane. -/
def ofBytes? (file : ByteArray) : Option Header := do
  let number (start count : Nat) : Option Nat := do
    return Bytes.littleEndian (← Bytes.slice? file start count)
  let letters ← Bytes.slice? file 0 2
  let start ← number 10 4
  let size ← number 14 4
  if letters.toList ≠ [0x42, 0x4D] then none
  else if size = shortSize then
    if (← number 22 2) ≠ 1 || (← number 24 2) ≠ 24 then none
    else of? start (← number 18 2) (← number 20 2) 24 .plain
  else if longSizes.contains size then
    let depth ← number 28 2
    let compression ← number 30 4
    let _ ← Bytes.slice? file 34 20
    let layout ←
      if compression = 0 && (depth = 24 || depth = 32) then some .plain
      else if compression = 3 && depth = 32 then
        let alpha ← if alphaSize ≤ size then number 66 4 else some 0
        Layout.ofMasks? (← number 54 4) (← number 58 4) (← number 62 4) alpha
      else none
    if (← number 26 2) ≠ 1 then none
    else of? start (signed (← number 18 4)) (signed (← number 22 4)) depth layout
  else none

variable (h : Header)

/-- The length of a row in the file. -/
def rowSize : Nat := (h.step * h.width + 3) / 4 * 4

/-- Where a row starts among the pixels. -/
def rowStart (y : Nat) : Nat := (if h.topDown then y else h.height - 1 - y) * h.rowSize

end Header

/-- The picture in a file. -/
def decode (file : ByteArray) : Except Fault (Option Frame) := do
  let some h := Header.ofBytes? file | return none
  let some data := Bytes.slice? file h.start (h.height * h.rowSize) | return none
  let bytes := (List.range h.height).foldl (fun out y =>
    (List.range h.width).foldl (fun out x =>
      let start := h.rowStart y + h.step * x
      (h.layout.read (Bytes.littleEndian (data.extract start (start + h.step)))).foldl
        ByteArray.push out) out) .empty
  some <$> Frame.ofRgba h.width.toUInt32 h.height.toUInt32 bytes

end Bmp

end GlyphMosaic
