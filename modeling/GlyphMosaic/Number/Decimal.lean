import GlyphMosaic.Number.Binary

/-!
# Decimal numerals

`Decimal` is a signed coefficient times a power of ten.  `Decimal.nearest` rounds it once, from its
exact value, to a binary format.  `Numeral.read?` reads the usual way to write one:

    [sign] digits [. digits] [e [sign] digits]

with a digit somewhere in the mantissa, or one of the words `inf`, `infinity` and `nan` in any case.
-/

namespace GlyphMosaic

/-- `coefficient * 10 ^ exponent`, with a sign. -/
structure Decimal where
  /-- The sign is a minus. -/
  negative : Bool
  /-- The digits read as one integer. -/
  coefficient : Nat
  /-- The power of ten. -/
  exponent : Int

/-- The bits of `f` nearest to `d`.  A value from `10 ^ 400` on is above, and one below `10 ^ -400`
is under, every finite number of the formats used here, so the powers of ten stay short. -/
def Decimal.nearest (f : BinaryFormat) (d : Decimal) : Nat :=
  if d.coefficient = 0 then f.signed d.negative 0
  else if 400 < d.exponent then f.signed d.negative f.infinityBits
  else if d.exponent + d.coefficient.log2 < -400 then f.signed d.negative 0
  else if 0 ≤ d.exponent then f.nearest d.negative (d.coefficient * 10 ^ d.exponent.toNat) 1
  else f.nearest d.negative d.coefficient (10 ^ (-d.exponent).toNat)

namespace Numeral

/-- The value of a digit. -/
def digitValue (c : Char) : Nat := c.toNat - '0'.toNat

/-- The number that a row of digits writes. -/
def ofDigits (ds : List Char) : Nat := ds.foldl (fun n c => 10 * n + digitValue c) 0

/-- Why a text is no number. -/
inductive Refusal where
  | empty
  | malformed
  deriving DecidableEq

/-- A sign in front, and what follows it. -/
def takeSign : List Char → Bool × List Char
  | '-' :: rest => (true, rest)
  | '+' :: rest => (false, rest)
  | rest => (false, rest)

/-- The exponent part: nothing, or a letter `e` with an optionally signed row of digits. -/
def readExponent? : List Char → Option Int
  | [] => some 0
  | e :: rest =>
    let (negative, ds) := takeSign rest
    if (e = 'e' || e = 'E') && !ds.isEmpty && ds.all Char.isDigit then
      some (if negative then -(ofDigits ds : Int) else ofDigits ds)
    else none

/-- An unsigned numeral, with the sign already taken. -/
def readMagnitude? (negative : Bool) (cs : List Char) : Option Decimal :=
  let whole := cs.takeWhile Char.isDigit
  let rest := cs.dropWhile Char.isDigit
  let (fraction, rest) :=
    match rest with
    | '.' :: tail => (tail.takeWhile Char.isDigit, tail.dropWhile Char.isDigit)
    | _ => ([], rest)
  if whole.isEmpty && fraction.isEmpty then none
  else do
    let exponent ← readExponent? rest
    some ⟨negative, ofDigits (whole ++ fraction), exponent - fraction.length⟩

/-- The bits of `f` that a text stands for. -/
def read? (f : BinaryFormat) (s : String) : Except Refusal Nat :=
  if s.isEmpty then .error .empty
  else
    let (negative, cs) := takeSign s.toList
    let word := cs.map Char.toLower
    if word = "inf".toList || word = "infinity".toList then .ok (f.signed negative f.infinityBits)
    else if word = "nan".toList then .ok (f.signed negative f.nanBits)
    else match readMagnitude? negative cs with
      | some d => .ok (d.nearest f)
      | none => .error .malformed

end Numeral

end GlyphMosaic
