import GlyphMosaic.Number.Power

/-!
# Binary floating-point numbers by their bits

A binary interchange format stores a sign, a biased exponent and a fraction.  Everything here works
on the stored bits and on exact integers:

* `BinaryFormat.decode` : the number that a bit pattern stands for;
* `BinaryFormat.nearest` : the bit pattern nearest to a quotient, ties going to the even neighbour;
* `Binary32` : a single-precision number kept as its 32 bits, so that two NaNs, or the two zeros,
  are told apart exactly when their bits differ.

The order `Binary32.lt` is read off the bits as well: without the sign bit, the bits of a number
that is not a NaN grow with its magnitude.
-/

namespace GlyphMosaic

/-- `num / den` rounded to the nearest integer, a tie going to the even one. -/
def roundQuotient (num den : Nat) : Nat :=
  let q := num / den
  let r := num % den
  if 2 * r < den then q
  else if den < 2 * r then q + 1
  else q + q % 2

/-- The widths that fix a binary interchange format. -/
structure BinaryFormat where
  /-- Bits of the stored fraction. -/
  fractionBits : Nat
  /-- Bits of the stored exponent. -/
  exponentBits : Nat

/-- What a bit pattern stands for; `finite` is `significand * 2 ^ exponent` with a sign. -/
inductive BinaryValue where
  | nan
  | infinite (negative : Bool)
  | finite (negative : Bool) (significand : Nat) (exponent : Int)

namespace BinaryFormat

/-- Single precision. -/
def single : BinaryFormat := ⟨23, 8⟩

/-- Double precision. -/
def double : BinaryFormat := ⟨52, 11⟩

variable (f : BinaryFormat)

/-- The exponent of the least positive number. -/
def leastExponent : Int :=
  2 - (2 ^ (f.exponentBits - 1) : Nat) - (f.fractionBits : Int)

/-- The bits of positive infinity, which is also the number of finite magnitudes. -/
def infinityBits : Nat := (2 ^ f.exponentBits - 1) * 2 ^ f.fractionBits

/-- The weight of the sign bit. -/
def signBit : Nat := 2 ^ (f.fractionBits + f.exponentBits)

/-- The bits of a magnitude with a sign. -/
def signed (negative : Bool) (magnitude : Nat) : Nat :=
  if negative then f.signBit + magnitude else magnitude

/-- The number that a bit pattern stands for. -/
def decode (bits : Nat) : BinaryValue :=
  let negative := bits / f.signBit % 2 == 1
  let exponent := bits / 2 ^ f.fractionBits % 2 ^ f.exponentBits
  let fraction := bits % 2 ^ f.fractionBits
  if exponent = 2 ^ f.exponentBits - 1 then
    if fraction = 0 then .infinite negative else .nan
  else if exponent = 0 then .finite negative fraction f.leastExponent
  else .finite negative (2 ^ f.fractionBits + fraction) (f.leastExponent + (exponent - 1 : Nat))

/-- The greatest `k` with `2 ^ k ≤ num / den`, for a positive quotient. -/
def floorLog2 (num den : Nat) : Int :=
  let k : Int := (num.log2 : Int) - den.log2
  let atLeast := if 0 ≤ k then den * 2 ^ k.toNat ≤ num else den ≤ num * 2 ^ (-k).toNat
  if atLeast then k else k - 1

/-- The magnitude bits nearest to `num / den`: the unit in the last place is `2 ^ q`, never below
the least exponent, and a significand that rounds up to the next power of two carries into the
exponent field. -/
def nearestMagnitude (num den : Nat) : Nat :=
  if num = 0 then 0
  else
    let q := max f.leastExponent (floorLog2 num den - f.fractionBits)
    let significand :=
      if 0 ≤ q then roundQuotient num (den * 2 ^ q.toNat)
      else roundQuotient (num * 2 ^ (-q).toNat) den
    min f.infinityBits ((q - f.leastExponent).toNat * 2 ^ f.fractionBits + significand)

/-- The bit pattern nearest to `num / den` with a sign. -/
def nearest (negative : Bool) (num den : Nat) : Nat :=
  f.signed negative (f.nearestMagnitude num den)

/-- The bit pattern nearest to an integer. -/
def nearestInt (i : Int) : Nat := f.nearest (i < 0) i.natAbs 1

/-- A quiet NaN. -/
def nanBits : Nat := f.infinityBits + 2 ^ (f.fractionBits - 1)

/-- The bit pattern of `f` nearest to a number. -/
def ofValue : BinaryValue → Nat
  | .nan => f.nanBits
  | .infinite negative => f.signed negative f.infinityBits
  | .finite negative significand exponent =>
    if 0 ≤ exponent then f.nearest negative (significand * 2 ^ exponent.toNat) 1
    else f.nearest negative significand (2 ^ (-exponent).toNat)

end BinaryFormat

/-- A single-precision number, by its bits. -/
structure Binary32 where
  /-- Sign, exponent and fraction, from the top. -/
  bits : UInt32
  deriving DecidableEq

namespace Binary32

/-- The number stored in the low 32 bits. -/
def ofNatBits (bits : Nat) : Binary32 := ⟨UInt32.ofNat bits⟩

/-- The bits without the sign. -/
def magnitude (x : Binary32) : Nat := x.bits.toNat % 2 ^ 31

/-- The sign bit is set. -/
def negative (x : Binary32) : Bool := 2 ^ 31 ≤ x.bits.toNat

/-- Exponent field full, fraction not zero. -/
def isNaN (x : Binary32) : Bool := BinaryFormat.single.infinityBits < x.magnitude

/-- Neither a NaN nor an infinity. -/
def isFinite (x : Binary32) : Bool := x.magnitude < BinaryFormat.single.infinityBits

/-- Places the numbers that are not NaNs in their order; both zeros are at `0`. -/
def rank (x : Binary32) : Int := if x.negative then -x.magnitude else x.magnitude

/-- The order of the numbers; a NaN is neither below nor above anything. -/
def lt (x y : Binary32) : Bool := !x.isNaN && !y.isNaN && x.rank < y.rank

/-- `x` moved into the range from `lo` to `hi`; a NaN stays. -/
def clamp (x lo hi : Binary32) : Binary32 :=
  if x.lt lo then lo else if hi.lt x then hi else x

/-- The machine number. -/
def toFloat32 (x : Binary32) : Float32 := Float32.ofBits x.bits

end Binary32

end GlyphMosaic
