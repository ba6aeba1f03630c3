import GlyphMosaic.Image.Png.Chunk
import GlyphMosaic.Number.Power

/-!
# What a PNG file tells before its image data

The first chunk is the header.  Of the chunks between it and the image data the palette, the
transparency, the colour space, the background and the frames of an animation matter; others are
passed over if the file can be read without them.

* A chunk that cannot be done without has to be sound; one that can be done without is passed over
  if its check value is wrong or its length is not one of its kind.
* Of several transparencies the first that fits the colour type counts, and so does the first colour
  space.
* Some chunks that can be done without are refused all the same if they make no sense
  (`addColorSpace?`, `addBackground?`, `addFrame?`).
-/

namespace GlyphMosaic

namespace Png

/-! ### The header -/

/-- What the channels of a pixel are. -/
inductive ColorType where
  | gray
  | rgb
  | indexed
  | grayAlpha
  | rgba
  deriving DecidableEq

namespace ColorType

/-- The colour type with a number. -/
def ofNat? : Nat → Option ColorType
  | 0 => some .gray
  | 2 => some .rgb
  | 3 => some .indexed
  | 4 => some .grayAlpha
  | 6 => some .rgba
  | _ => none

/-- Bytes per pixel. -/
def channels : ColorType → Nat
  | .gray => 1
  | .rgb => 3
  | .indexed => 1
  | .grayAlpha => 2
  | .rgba => 4

end ColorType

/-- The dimensions and the colour type. -/
structure Header where
  /-- Pixels per row. -/
  width : Nat
  /-- Number of rows. -/
  height : Nat
  /-- What a pixel is. -/
  colorType : ColorType

namespace Header

/-- The header in its chunk: 13 bytes, with a depth of eight bits and with the only methods there
are. -/
def ofChunk? (c : Chunk) : Option Header := do
  let width := Bytes.bigEndian (c.body.extract 0 4)
  let height := Bytes.bigEndian (c.body.extract 4 8)
  if c.kind ≠ "IHDR" || !c.sound || c.length ≠ 13 || width = 0 || height = 0 || 2 ^ 31 ≤ width
      || 2 ^ 31 ≤ height || (c.body.extract 8 9).toList ≠ [8]
      || (c.body.extract 10 13).toList ≠ [0, 0, 0]
  then none
  else return ⟨width, height, ← ColorType.ofNat? (c.body.get! 9).toNat⟩

variable (h : Header)

/-- Bytes per row. -/
def rowSize : Nat := h.colorType.channels * h.width

/-- Bytes of all rows, with one more in front of each. -/
def dataSize : Nat := h.height * (1 + h.rowSize)

end Header

/-! ### Between the header and the image data -/

/-- What the chunks have told so far. -/
structure Contents where
  /-- The header. -/
  header : Header
  /-- The colours of a palette, three bytes each. -/
  palette : Option ByteArray := none
  /-- The alpha values of a palette, or a transparent colour. -/
  transparency : Option ByteArray := none
  /-- The colour space was given. -/
  hasColorSpace : Bool := false
  /-- The number of the last frame of an animation. -/
  frame : Option Nat := none

namespace Contents

variable (c : Contents)

/-- With a palette: one, of at most 256 colours. -/
def addPalette? (body : ByteArray) : Option Contents :=
  if c.palette.isSome || body.size < 3 || 768 < body.size then none
  else some { c with palette := some body }

/-- The least length of a transparency.  That of a palette comes after the palette, and images with
an alpha channel have none. -/
def transparencySize? : Option Nat :=
  match c.header.colorType with
  | .gray => some 2
  | .rgb => some 6
  | .indexed => if c.palette.isSome then some 1 else none
  | .grayAlpha | .rgba => none

/-- With a transparency, unless there is one or it does not fit. -/
def addTransparency (body : ByteArray) : Contents :=
  match c.transparency, c.transparencySize? with
  | none, some least =>
    if least ≤ body.size && body.size ≤ 256 then { c with transparency := some body } else c
  | _, _ => c

/-- With a colour space, unless there is one or it comes after the palette.  Its third byte is a
matrix, of which there is only the first, and its fourth a truth value. -/
def addColorSpace? (body : ByteArray) : Option Contents :=
  match body.toList with
  | [_, _, matrix, range] =>
    if c.hasColorSpace || c.palette.isSome then some c
    else if matrix ≠ 0 || 1 < range then none
    else some { c with hasColorSpace := true }
  | _ => some c

/-- With a background, which in an image with a palette comes after the palette. -/
def addBackground? (body : ByteArray) : Option Contents :=
  if 1 ≤ body.size && body.size ≤ 6 && c.header.colorType = .indexed && c.palette.isNone then none
  else some c

/-- With a frame of an animation.  The frames are numbered; in front of the image data a frame is
the whole image, and there are three ways to dispose of it and two to blend it. -/
def addFrame? (body : ByteArray) : Option Contents :=
  let number (start stop : Nat) : Nat := Bytes.bigEndian (body.extract start stop)
  if number 0 4 ≠ c.frame.elim 0 (· + 1) || number 4 8 ≠ c.header.width
      || number 8 12 ≠ c.header.height || number 12 20 ≠ 0 || 2 < number 24 25
      || 1 < number 25 26 then none
  else some { c with frame := some (number 0 4) }

/-- With one more chunk. -/
def add? (chunk : Chunk) : Option Contents :=
  if !chunk.whole then none
  else if chunk.kind = "fcTL" && chunk.length ≠ 26 then none
  else if !chunk.sound then if chunk.critical then none else some c
  else if chunk.kind = "PLTE" then c.addPalette? chunk.body
  else if chunk.kind = "tRNS" then some (c.addTransparency chunk.body)
  else if chunk.kind = "cICP" then c.addColorSpace? chunk.body
  else if chunk.kind = "bKGD" then c.addBackground? chunk.body
  else if chunk.kind = "fcTL" then c.addFrame? chunk.body
  else if chunk.critical then none
  else some c

end Contents

end Png

end GlyphMosaic
