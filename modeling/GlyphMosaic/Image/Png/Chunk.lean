import GlyphMosaic.Image.Bytes
import GlyphMosaic.Image.Crc32

/-!
# Chunks

After its signature a PNG file is a sequence of chunks.  A chunk has a length, a kind of four bytes,
a body of that length, and a check value of the kind and the body.  A file may end within a chunk;
nothing can follow that one.
-/

namespace GlyphMosaic

namespace Png

/-- The first bytes of every file. -/
def signature : ByteArray := ⟨#[0x89, 0x50, 0x4E, 0x47, 0x0D, 0x0A, 0x1A, 0x0A]⟩

/-- A chunk. -/
structure Chunk where
  /-- A character for each byte of its kind. -/
  kind : String
  /-- The length of its body, as it is given. -/
  length : Nat
  /-- The part of its body that is in the file. -/
  body : ByteArray
  /-- All of it is in the file. -/
  whole : Bool
  /-- Its check value is right. -/
  checked : Bool

namespace Chunk

/-- The chunk that starts at a place of a file.  Its length and its kind have to be there. -/
def at? (file : ByteArray) (start : Nat) : Option Chunk := do
  let length := Bytes.bigEndian (← Bytes.slice? file start 4)
  let kind ← Bytes.slice? file (start + 4) 4
  let body := file.extract (start + 8) (start + 8 + length)
  let check := file.extract (start + 8 + length) (start + 12 + length)
  return {
    kind := String.ofList (kind.toList.map fun b => Char.ofNat b.toNat)
    length
    body
    whole := check.size = 4
    checked := (Crc32.ofBytes (kind ++ body)).toNat = Bytes.bigEndian check }

/-- The chunks from a place of a file on.  Each but the last has twelve bytes at least. -/
def listFrom (file : ByteArray) : (fuel start : Nat) → List Chunk
  | 0, _ => []
  | fuel + 1, start =>
    match at? file start with
    | some chunk => chunk :: listFrom file fuel (start + 12 + chunk.length)
    | none => []

/-- The chunks of a file that starts with the signature. -/
def ofFile? (file : ByteArray) : Option (List Chunk) :=
  if (file.extract 0 signature.size).toList = signature.toList then
    some (listFrom file (file.size / 12 + 1) signature.size)
  else none

variable (c : Chunk)

/-- It is all there, and its check value is right. -/
def sound : Bool := c.whole && c.checked

/-- A file cannot be read without chunks of this kind: the bit of its first byte that tells a small
letter from a capital is not set. -/
def critical : Bool := c.kind.front.toNat / 32 % 2 = 0

/-- It holds a part of the image, or of a frame of an animation. -/
def holdsData : Bool := c.kind = "IDAT" || c.kind = "fdAT"

end Chunk

end Png

end GlyphMosaic
