/-!
# Channel levels in texts

The decimal text of a level from 0 to 255, and what it takes to read one back.
-/

namespace GlyphMosaic

/-- The decimal text of a channel level. -/
def levelText (v : UInt8) : String := Nat.repr v.toNat

/-- A channel level in front of a text, and the rest of the text. -/
def readLevel? (cs : List Char) : Option (UInt8 × List Char) :=
  let digits := cs.takeWhile Char.isDigit
  let n := digits.foldl (fun n c => 10 * n + (c.toNat - 48)) 0
  if digits.isEmpty || 256 ≤ n then none else some (n.toUInt8, cs.dropWhile Char.isDigit)

/-- The text behind a fixed one. -/
def behind? (fixed : String) (cs : List Char) : Option (List Char) := fixed.toList.isPrefixOf? cs

end GlyphMosaic
