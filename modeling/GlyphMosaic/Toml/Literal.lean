import GlyphMosaic.Number.Decimal
import GlyphMosaic.Toml.Item
import GlyphMosaic.Toml.Scan

/-!
# Numbers, dates and times in TOML

Digits of a number may be grouped by single underscores between them.  A decimal number has no
leading zeros; with a fraction or an exponent it is a floating-point number.  Integers fit 64 bits
with a sign.  Dates and times are checked and not kept.
-/

namespace GlyphMosaic

namespace Toml

/-! ### Integers -/

/-- The digits of a group behind its first digit: digits, and single underscores before digits. -/
def moreDigits (isDigit : Char → Bool) : List Char → List Char × List Char
  | '_' :: d :: rest =>
    if isDigit d then
      let (ds, rest) := moreDigits isDigit rest
      (d :: ds, rest)
    else ([], '_' :: d :: rest)
  | d :: rest =>
    if isDigit d then
      let (ds, rest) := moreDigits isDigit rest
      (d :: ds, rest)
    else ([], d :: rest)
  | [] => ([], [])

/-- A row of digits, at least one, without its underscores. -/
def digits? (isDigit : Char → Bool) : Scan (List Char)
  | d :: rest =>
    if isDigit d then
      let (ds, rest) := moreDigits isDigit rest
      some (d :: ds, rest)
    else none
  | [] => none

/-- The digits of a decimal number without leading zeros. -/
def unsignedDigits? : Scan (List Char)
  | '0' :: rest => some (['0'], rest)
  | cs => digits? Char.isDigit cs

/-- An integer that fits 64 bits with a sign. -/
def fittingInteger (i : Int) : Option Item :=
  if -2 ^ 63 ≤ i ∧ i < 2 ^ 63 then some (.integer i) else none

/-- The number that digits write in a base. -/
def baseValue (base : Nat) (ds : List Char) : Nat :=
  ds.foldl (fun n d => base * n + (hexValue? d).getD 0) 0

/-- An integer in a base other than ten, behind its mark. -/
def basedInteger? (base : Nat) (cs : List Char) : Option (Item × List Char) := do
  let (ds, rest) ← digits? (fun c => (hexValue? c).any (· < base)) cs
  let item ← fittingInteger (baseValue base ds)
  return (item, rest)

/-- An integer. -/
def integer? : Scan Item
  | '0' :: 'x' :: rest => basedInteger? 16 rest
  | '0' :: 'o' :: rest => basedInteger? 8 rest
  | '0' :: 'b' :: rest => basedInteger? 2 rest
  | cs => do
    let (negative, rest) := Numeral.takeSign cs
    let (ds, rest) ← unsignedDigits? rest
    let n : Int := Numeral.ofDigits ds
    let item ← fittingInteger (if negative then -n else n)
    return (item, rest)

/-! ### Floating-point numbers -/

/-- A fraction: a point and digits. -/
def fraction? : Scan (List Char)
  | '.' :: rest => digits? Char.isDigit rest
  | _ => none

/-- An exponent. -/
def exponent? : Scan Int
  | e :: rest =>
    if e = 'e' || e = 'E' then do
      let (negative, rest) := Numeral.takeSign rest
      let (ds, rest) ← digits? Char.isDigit rest
      let n : Int := Numeral.ofDigits ds
      return (if negative then -n else n, rest)
    else none
  | [] => none

/-- One of the two words for numbers that have no digits. -/
def special? (negative : Bool) : Scan Item
  | 'i' :: 'n' :: 'f' :: rest =>
    some (.float (BinaryFormat.double.signed negative BinaryFormat.double.infinityBits), rest)
  | 'n' :: 'a' :: 'n' :: rest =>
    some (.float (BinaryFormat.double.signed negative BinaryFormat.double.nanBits), rest)
  | _ => none

/-- A floating-point number, nearest in double precision.  One too great for that is refused. -/
def roundedFloat (d : Decimal) : Option Item :=
  let bits := d.nearest .double
  if bits = BinaryFormat.double.infinityBits then none else some (.float bits)

/-- A floating-point number: digits with a fraction or an exponent or both, or a word. -/
def float? (cs : List Char) : Option (Item × List Char) :=
  let (negative, cs) := Numeral.takeSign cs
  match unsignedDigits? cs with
  | none => special? negative cs
  | some (whole, rest) =>
    match fraction? rest, exponent? rest with
    | none, none => none
    | none, some (e, rest) => do
      let item ← roundedFloat ⟨negative, Numeral.ofDigits whole, e⟩
      return (item, rest)
    | some (fraction, rest), _ => do
      let (e, rest) := (exponent? rest).getD (0, rest)
      let item ← roundedFloat
        ⟨negative, Numeral.ofDigits (whole ++ fraction), e - fraction.length⟩
      return (item, rest)

/-! ### Dates and times -/

/-- A number of exactly `n` digits in a range. -/
def field? (n least greatest : Nat) (cs : List Char) : Option (Nat × List Char) :=
  let ds := cs.take n
  let v := Numeral.ofDigits ds
  if ds.length = n && ds.all Char.isDigit && least ≤ v && v ≤ greatest then some (v, cs.drop n)
  else none

/-- The text behind a given character. -/
def expect? (c : Char) : List Char → Option (List Char)
  | d :: rest => if d = c then some rest else none
  | [] => none

/-- The number of days of a month. -/
def daysOfMonth (year month : Nat) : Nat :=
  if month = 2 then
    if year % 4 = 0 ∧ (year % 100 ≠ 0 ∨ year % 400 = 0) then 29 else 28
  else if month = 4 ∨ month = 6 ∨ month = 9 ∨ month = 11 then 30
  else 31

/-- The text behind a date. -/
def date? (cs : List Char) : Option (List Char) := do
  let (year, cs) ← field? 4 0 9999 cs
  let (month, cs) ← field? 2 1 12 (← expect? '-' cs)
  let (_, cs) ← field? 2 1 (daysOfMonth year month) (← expect? '-' cs)
  return cs

/-- The text behind an hour and a minute. -/
def hourMinute? (cs : List Char) : Option (List Char) := do
  let (_, cs) ← field? 2 0 23 cs
  let (_, cs) ← field? 2 0 59 (← expect? ':' cs)
  return cs

/-- The text behind the fraction of a second, if there is one. -/
def dropSecondFraction : List Char → List Char
  | '.' :: d :: rest => if d.isDigit then rest.dropWhile Char.isDigit else '.' :: d :: rest
  | cs => cs

/-- The text behind a time of day. -/
def time? (cs : List Char) : Option (List Char) := do
  let cs ← hourMinute? cs
  let (_, cs) ← field? 2 0 60 (← expect? ':' cs)
  return dropSecondFraction cs

/-- The text behind an offset from universal time, if there is one. -/
def dropOffset : List Char → List Char
  | c :: rest =>
    if c = 'Z' || c = 'z' then rest
    else if c = '+' || c = '-' then (hourMinute? rest).getD (c :: rest)
    else c :: rest
  | [] => []

/-- The text behind the time of a date, if there is one. -/
def dropTimeOfDate : List Char → List Char
  | c :: rest =>
    if c = 'T' || c = 't' || c = ' ' then ((time? rest).map dropOffset).getD (c :: rest)
    else c :: rest
  | [] => []

/-- A date with or without a time, or a time. -/
def datetime? (cs : List Char) : Option (Item × List Char) :=
  match date? cs with
  | some rest => some (.datetime, dropTimeOfDate rest)
  | none => (time? cs).map fun rest => (.datetime, rest)

/-- The first of some scanners that accepts. -/
def firstOf {α : Type} (scans : List (Scan α)) (cs : List Char) : Option (α × List Char) :=
  scans.findSome? fun scan => scan cs

/-- A word with a value. -/
def word? (name : String) (item : Item) (cs : List Char) : Option (Item × List Char) :=
  if name.toList.isPrefixOf cs then some (item, cs.drop name.length) else none

/-- A value that is neither an array nor an inline table. -/
def simpleValue? (cs : List Char) : Option (Item × List Char) :=
  match cs with
  | [] => none
  | c :: _ =>
    if c = '\"' || c = '\'' then (string? cs).map fun (s, rest) => (.string s, rest)
    else if c = 't' then word? "true" (.boolean true) cs
    else if c = 'f' then word? "false" (.boolean false) cs
    else firstOf [datetime?, float?, integer?] cs

end Toml

end GlyphMosaic
