/-!
# The cyclic redundancy check of 32 bits

The bits of the bytes, each byte from its least significant bit on, are the coefficients of a
polynomial over two elements; the check value is its remainder by a fixed polynomial of degree 32,
with the register complemented before and after.
-/

namespace GlyphMosaic

namespace Crc32

/-- The divisor without its leading coefficient, the coefficient of the highest power in the lowest
bit. -/
def divisor : UInt32 := 0xEDB88320

/-- The register after one bit of the division. -/
def shift (register : UInt32) : UInt32 :=
  if register &&& 1 = 1 then (register >>> 1) ^^^ divisor else register >>> 1

/-- The register after `n` bits. -/
def shifts : (n : Nat) → UInt32 → UInt32
  | 0, register => register
  | n + 1, register => shifts n (shift register)

/-- The register after a byte. -/
def addByte (register : UInt32) (byte : UInt8) : UInt32 := shifts 8 (register ^^^ byte.toUInt32)

/-- The check value of some bytes. -/
def ofBytes (bytes : ByteArray) : UInt32 := ~~~ (bytes.foldl addByte 0xFFFFFFFF)

end Crc32

end GlyphMosaic
