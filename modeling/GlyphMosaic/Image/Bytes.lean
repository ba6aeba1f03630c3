/-!
# Numbers in byte strings

Slices that have to lie inside the bytes, and the two orders in which the bytes of a number are
stored.
-/

namespace GlyphMosaic

namespace Bytes

/-- `count` bytes from `start` on, all of which have to be there. -/
def slice? (bytes : ByteArray) (start count : Nat) : Option ByteArray :=
  if start + count ≤ bytes.size then some (bytes.extract start (start + count)) else none

/-- The number whose most significant byte comes first. -/
def bigEndian (bytes : ByteArray) : Nat := bytes.foldl (fun n b => 256 * n + b.toNat) 0

/-- The number whose least significant byte comes first. -/
def littleEndian (bytes : ByteArray) : Nat :=
  bytes.toList.foldr (fun b n => b.toNat + 256 * n) 0

/-- `count` zeros. -/
def zeros (count : Nat) : ByteArray := ⟨Array.replicate count 0⟩

end Bytes

end GlyphMosaic
