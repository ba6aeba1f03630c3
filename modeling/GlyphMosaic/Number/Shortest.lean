import GlyphMosaic.Number.Binary

/-!
# Decimal text of binary numbers

Two ways to write a finite number in decimal, both from its exact value:

* `Shortest.digits` : the fewest digits that read back as the same number, and of those the nearest;
* `Fixed.render` : a fixed number of places after the point, ties going to the even neighbour.
-/

namespace GlyphMosaic

/-- The digits of `n`, most significant first. -/
def decimalDigits (n : Nat) : List Char := Nat.toDigits 10 n

namespace Shortest

/-- An interval of positive rationals over one denominator; the ends belong to it or not
together. -/
structure Interval where
  /-- Numerator of the lower end. -/
  low : Nat
  /-- Numerator of the upper end. -/
  high : Nat
  /-- The common denominator. -/
  den : Nat
  /-- The ends are in the interval. -/
  closed : Bool

/-- `num / den` lies in the interval. -/
def Interval.contains (i : Interval) (num den : Nat) : Bool :=
  if i.closed then i.low * den ≤ num * i.den && num * i.den ≤ i.high * den
  else i.low * den < num * i.den && num * i.den < i.high * den

/-- A positive number and the reals that round to it. -/
structure Target where
  /-- Numerator of the number. -/
  num : Nat
  /-- Denominator of the number. -/
  den : Nat
  /-- The reals that round to the number. -/
  interval : Interval

/-- The target `significand * 2 ^ exponent` of a format.  Below a power of two the next number is
half as far as above it. -/
def Target.ofParts (f : BinaryFormat) (significand : Nat) (exponent : Int) : Target :=
  let up := 2 ^ exponent.toNat
  let den := 2 ^ (-exponent).toNat
  let atPower := significand = 2 ^ f.fractionBits && f.leastExponent < exponent
  let below := if atPower then 4 * significand - 1 else 4 * significand - 2
  ⟨significand * up, den, below * up, (4 * significand + 2) * up, 4 * den, significand % 2 = 0⟩

/-- The number of digits before the point of `num / den`, or minus the number of zeros behind it. -/
def pointPosition (num den : Nat) : Int :=
  ((decimalDigits (num * 10 ^ 400 / den)).length : Int) - 400

/-- The decimal `coefficient * 10 ^ exponent` as a quotient. -/
def quotient (coefficient : Nat) (exponent : Int) : Nat × Nat :=
  (coefficient * 10 ^ exponent.toNat, 10 ^ (-exponent).toNat)

/-- The best decimal with `n` digits that reads back, if there is one: one of the two neighbours of
the number on the grid of `n` digits, the nearer if both read back, and the even one at a tie. -/
def withDigits? (t : Target) (point : Int) (n : Nat) : Option (Nat × Int) :=
  let e := point - n
  let (unitNum, unitDen) := quotient 1 e
  let below := t.num * unitDen / (t.den * unitNum)
  let reads (c : Nat) : Bool := let (a, b) := quotient c e; t.interval.contains a b
  let remainder := t.num * unitDen % (t.den * unitNum)
  let upIsNearer :=
    t.den * unitNum < 2 * remainder || (t.den * unitNum = 2 * remainder && below % 2 = 1)
  if reads below && reads (below + 1) then
    some (if upIsNearer then below + 1 else below, e)
  else if reads below then some (below, e)
  else if reads (below + 1) then some (below + 1, e)
  else none

/-- The first length from `n` on, with `fuel` lengths left to try, at which a decimal reads back. -/
def search (t : Target) (point : Int) : (fuel n : Nat) → Nat × Int
  | 0, n => (t.num * 10 ^ n / t.den, -n)
  | fuel + 1, n => (withDigits? t point n).getD (search t point fuel (n + 1))

/-- The shortest digits of a positive number, without trailing zeros, and the position of the point:
the number is `0.d₁d₂… * 10 ^ point`. -/
def digits (f : BinaryFormat) (significand : Nat) (exponent : Int) : List Char × Int :=
  let t := Target.ofParts f significand exponent
  let (c, e) := search t (pointPosition t.num t.den) 17 1
  let ds := decimalDigits c
  ((ds.reverse.dropWhile (· == '0')).reverse, e + ds.length)

end Shortest

namespace Fixed

/-- A quotient with `places` digits behind the point. -/
def renderQuotient (places num den : Nat) : String :=
  let ds := decimalDigits (roundQuotient (num * 10 ^ places) den)
  let ds := List.replicate (places + 1 - ds.length) '0' ++ ds
  let whole := ds.take (ds.length - places)
  let fraction := ds.drop (ds.length - places)
  String.ofList (if places = 0 then whole else whole ++ '.' :: fraction)

/-- A number with `places` digits behind the point; the sign of a zero is kept. -/
def render (places : Nat) : BinaryValue → String
  | .nan => "NaN"
  | .infinite negative => if negative then "-inf" else "inf"
  | .finite negative significand exponent =>
    (if negative then "-" else "") ++
      renderQuotient places (significand * 2 ^ exponent.toNat) (2 ^ (-exponent).toNat)

end Fixed

end GlyphMosaic
