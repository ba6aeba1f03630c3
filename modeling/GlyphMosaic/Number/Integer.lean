import GlyphMosaic.Number.Decimal

/-!
# Integers in texts

A row of digits, perhaps with a sign in front.  The digits are read one after the other, and the
first one that is no digit or that leads beyond the range is what the text is refused for.
-/

namespace GlyphMosaic

namespace Integer

/-- Why a text is no integer of a range. -/
inductive Refusal where
  | empty
  | invalidDigit
  | tooLarge
  | tooSmall
  deriving DecidableEq

/-- The message of a refusal. -/
def Refusal.message : Refusal → String
  | .empty => "cannot parse integer from empty string"
  | .invalidDigit => "invalid digit found in string"
  | .tooLarge => "number too large to fit in target type"
  | .tooSmall => "number too small to fit in target type"

/-- The number that digits write behind the digits of `n`, if it is at most `greatest`. -/
def extend (greatest : Nat) (beyond : Refusal) : (n : Nat) → List Char → Except Refusal Nat
  | n, [] => .ok n
  | n, c :: rest =>
    if c.isDigit then
      let next := 10 * n + Numeral.digitValue c
      if greatest < next then .error beyond else extend greatest beyond next rest
    else .error .invalidDigit

/-- The number that one digit or more write. -/
def magnitude (greatest : Nat) (beyond : Refusal) (digits : List Char) : Except Refusal Nat :=
  if digits.isEmpty then .error .invalidDigit else extend greatest beyond 0 digits

/-- The natural number of at most `bits` bits that a text writes; a plus may stand in front. -/
def readNatural (bits : Nat) : List Char → Except Refusal Nat
  | [] => .error .empty
  | '+' :: digits => magnitude (2 ^ bits - 1) .tooLarge digits
  | digits => magnitude (2 ^ bits - 1) .tooLarge digits

/-- The integer of `bits` bits that a text writes; a sign may stand in front. -/
def readSigned (bits : Nat) : List Char → Except Refusal Int
  | [] => .error .empty
  | '-' :: digits => do
    let n ← magnitude (2 ^ (bits - 1)) .tooSmall digits
    return -(n : Int)
  | '+' :: digits => do
    let n ← magnitude (2 ^ (bits - 1) - 1) .tooLarge digits
    return n
  | digits => do
    let n ← magnitude (2 ^ (bits - 1) - 1) .tooLarge digits
    return n

end Integer

end GlyphMosaic
