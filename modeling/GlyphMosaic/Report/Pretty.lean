import GlyphMosaic.Number.Shortest

/-!
# Indented JSON text

A value is a list of lines.  Members and elements of a compound value stand on lines of their own,
two blanks deeper than its brackets, and are separated by commas; an empty one is a pair of
brackets.

Numbers are written with the fewest digits that read back: with a point and at least one digit on
both sides while the point falls within sixteen digits or at most four zeros follow it, and in
scientific notation with a signed exponent otherwise.  What is not finite is `null`.
-/

namespace GlyphMosaic

namespace Pretty

/-- A character of a string: quotes, backslashes and control characters are escaped. -/
def escape (c : Char) : List Char :=
  if c = '\"' then ['\\', '\"']
  else if c = '\\' then ['\\', '\\']
  else if c = '\n' then ['\\', 'n']
  else if c = '\r' then ['\\', 'r']
  else if c = '\t' then ['\\', 't']
  else if c.toNat = 8 then ['\\', 'b']
  else if c.toNat = 12 then ['\\', 'f']
  else if c.toNat < 32 then
    ['\\', 'u', '0', '0', Nat.digitChar (c.toNat / 16), Nat.digitChar (c.toNat % 16)]
  else [c]

/-- A string value. -/
def string (s : String) : List String :=
  [String.ofList ('\"' :: s.toList.flatMap escape ++ ['\"'])]

/-- A whole number. -/
def nat (n : Nat) : List String := [Nat.repr n]

/-- A truth value. -/
def bool (b : Bool) : List String := [if b then "true" else "false"]

/-- The absent value. -/
def null : List String := ["null"]

/-- Digits with their point, the number being `0.d₁d₂… * 10 ^ point`. -/
def pointed (digits : List Char) (point : Int) : List Char :=
  if 0 < point ∧ point ≤ 16 then
    let whole := digits.take point.toNat
    let fraction := digits.drop point.toNat
    whole ++ List.replicate (point.toNat - digits.length) '0' ++ '.' ::
      (if fraction.isEmpty then ['0'] else fraction)
  else if -5 < point ∧ point ≤ 0 then
    ['0', '.'] ++ List.replicate (-point).toNat '0' ++ digits
  else
    let exponent := point - 1
    let fraction := digits.drop 1
    digits.take 1 ++ (if fraction.isEmpty then [] else '.' :: fraction) ++
      ['e', if exponent < 0 then '-' else '+'] ++ decimalDigits exponent.natAbs

/-- A number. -/
def number (x : BinaryValue) : List String :=
  match x with
  | .nan | .infinite _ => null
  | .finite negative significand exponent =>
    let text :=
      if significand = 0 then ['0', '.', '0']
      else
        let (digits, point) := Shortest.digits .double significand exponent
        pointed digits point
    [String.ofList (if negative then '-' :: text else text)]

/-- The lines of elements, all but the last element ending with a comma. -/
def separate : List (List String) → List String
  | [] => []
  | [last] => last
  | lines :: rest => lines.dropLast ++ [(lines.getLastD "") ++ ","] ++ separate rest

/-- Elements between brackets. -/
def enclose (opening closing : String) (elements : List (List String)) : List String :=
  if elements.isEmpty then [opening ++ closing]
  else opening :: (separate elements).map ("  " ++ ·) ++ [closing]

/-- An array. -/
def array (elements : List (List String)) : List String := enclose "[" "]" elements

/-- A member of an object. -/
def member (name : String) (value : List String) : List String :=
  match value with
  | [] => []
  | first :: rest => ("\"" ++ name ++ "\": " ++ first) :: rest

/-- An object. -/
def object (members : List (List String)) : List String := enclose "\x7b" "\x7d" members

/-- The text of a value. -/
def render (value : List String) : String := "\n".intercalate value

end Pretty

end GlyphMosaic
