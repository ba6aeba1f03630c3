import GlyphMosaic.Export.Html

/-!
# Text and terminal output of a grid

Plain text writes the glyphs of a row and a line feed.  Terminal output adds colours: an escape
sequence sets the foreground where the colour changes, and one at the end of each row resets it.

Both are written piece by piece, by whatever appends a piece of text to what is there: to a text,
which `render` does, or to bytes.
-/

namespace GlyphMosaic

variable {α : Type} (append : α → String → α)

namespace PlainText

/-- The glyphs of a row and a line feed, behind `out`. -/
def appendRow (out : α) (row : List Cell) : α :=
  append (row.foldl (fun out c => append out (String.singleton c.glyph)) out) "\n"

/-- The rows of a grid, behind `out`. -/
def appendGrid (out : α) (g : Grid) : α := g.rows.foldl (appendRow append) out

/-- The text of a grid. -/
def render (g : Grid) : String := appendGrid (· ++ ·) "" g

end PlainText

namespace Ansi

/-- Sets the foreground colour. -/
def setColor (c : Rgb) : String :=
  "\x1b[38;2;" ++ levelText c.r ++ ";" ++ levelText c.g ++ ";" ++ levelText c.b ++ "m"

/-- Resets the colours. -/
def reset : String := "\x1b[0m"

/-- A cell behind the output, with its colour set unless it is the current one; the colour of the
cell is then the current one. -/
def appendCell (state : α × Option Rgb) (c : Cell) : α × Option Rgb :=
  let (out, current) := state
  let out := if current = some c.color then out else append out (setColor c.color)
  (append out (String.singleton c.glyph), some c.color)

/-- A row behind the output. -/
def appendRow (out : α) (row : List Cell) : α :=
  append (append (row.foldl (appendCell append) (out, none)).1 reset) "\n"

/-- The rows of a grid, behind `out`. -/
def appendGrid (out : α) (g : Grid) : α := g.rows.foldl (appendRow append) out

/-- The terminal output of a grid. -/
def render (g : Grid) : String := appendGrid (· ++ ·) "" g

end Ansi

end GlyphMosaic
