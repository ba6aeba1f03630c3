/-!
# Palettes of glyphs

A palette lists its glyphs from the sparsest to the densest; it has at least two and at most 256.
`Palette.rank` spreads the 256 luminance levels over the positions of a palette in fixed point:
level `v` goes to position `⌊(v * last + 127) / 256⌋`, so that `0` goes to the first glyph and the
levels near the top to the last one.
-/

namespace GlyphMosaic

/-- Glyphs from the sparsest to the densest. -/
structure Palette where
  /-- The glyphs in order of density. -/
  glyphs : Array Char
  /-- A palette tells at least two levels apart. -/
  two_le_size : 2 ≤ glyphs.size
  /-- A palette has no more glyphs than there are levels. -/
  size_le : glyphs.size ≤ 256

namespace Palette

/-- Why a charset is no palette; both carry the number of its glyphs. -/
inductive Refusal where
  | tooShort (size : Nat)
  | tooLong (size : Nat)
  deriving DecidableEq

/-- The wording of a refusal. -/
def Refusal.message : Refusal → String
  | .tooShort size => "Palette trop courte : " ++ Nat.repr size ++ " glyphe(s), minimum 2"
  | .tooLong size =>
    "Configuration invalide : palette de " ++ Nat.repr size ++ " glyphes, maximum 256"

/-- The palette of the characters of a charset. -/
def ofString (charset : String) : Except Refusal Palette :=
  let glyphs := charset.toList.toArray
  if short : glyphs.size < 2 then .error (.tooShort glyphs.size)
  else if long : 256 < glyphs.size then .error (.tooLong glyphs.size)
  else .ok ⟨glyphs, by omega, by omega⟩

/-- The charset is a palette. -/
def accepts (charset : String) : Bool := (ofString charset).isOk

/-- Ten glyphs, the default. -/
def compact : String := " .:-=+*#%@"

/-- Sixty-nine glyphs. -/
def standard : String :=
  " .'\x60^\",:;Il!i><~+_-?][\x7d\x7b1)(|/tfjrxnuvczXYUJCLQ0OZmwqpdbkhao*#MW&8%B@$"

/-- Five glyphs. -/
def minimal : String := " .:#@"

/-- The charset with a given name; ASCII case does not matter. -/
def preset? (name : String) : Option String :=
  let word := name.map Char.toLower
  if word = "compact" then some compact
  else if word = "standard" then some standard
  else if word = "minimal" then some minimal
  else none

/-- The palette of `compact`. -/
def default : Palette := ⟨compact.toList.toArray, by decide, by decide⟩

variable (p : Palette)

/-- The number of glyphs. -/
def size : Nat := p.glyphs.size

/-- The glyph at a position; positions past the end stand for the last one. -/
def glyph (position : Nat) : Char :=
  have := p.two_le_size
  p.glyphs[min position (p.glyphs.size - 1)]

/-- The position of a luminance level in a palette of `size` glyphs; sizes outside `1` to `256`
count as the nearer of the two. -/
def rank (size : Nat) (level : UInt8) : Nat :=
  let last := min (max size 1) 256 - 1
  min ((level.toNat * last + 127) / 256) last

/-- The glyph that shows a luminance level. -/
def glyphFor (level : UInt8) : Char := p.glyph (rank p.size level)

end Palette

end GlyphMosaic
