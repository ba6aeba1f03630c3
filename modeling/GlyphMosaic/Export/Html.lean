import GlyphMosaic.Export.Level
import GlyphMosaic.Grid

/-!
# HTML markup of a grid

A row is a sequence of spans, one for each run of cells of one colour, and a line break.  The markup
is made of whole fragments, a span or a break each: `Html.render` emits fragments as long as they
fit the capacity and stops at the first one that does not, so that no tag, escape or character is
ever cut.  `Html.writeFragments` does the same behind other output, of which it counts only its own.
-/

namespace GlyphMosaic

/-- Cells of one colour, side by side. -/
structure Run where
  /-- Their colour. -/
  color : Rgb
  /-- Their glyphs. -/
  glyphs : List Char

/-- Puts a cell in front of runs. -/
def Run.cons (c : Cell) : List Run → List Run
  | [] => [⟨c.color, [c.glyph]⟩]
  | run :: rest =>
    if c.color = run.color then ⟨run.color, c.glyph :: run.glyphs⟩ :: rest
    else ⟨c.color, [c.glyph]⟩ :: run :: rest

/-- The longest runs of one colour in a row. -/
def Run.ofRow (row : List Cell) : List Run := row.foldr Run.cons []

namespace Html

/-- A glyph as text; the five characters that markup uses are escaped. -/
def escape (c : Char) : String :=
  if c = '&' then "&amp;"
  else if c = '<' then "&lt;"
  else if c = '>' then "&gt;"
  else if c = '\"' then "&quot;"
  else if c = '\'' then "&#39;"
  else String.singleton c

/-- The opening tag of a span. -/
def openingTag (c : Rgb) : String :=
  "<span style=\"color:rgb(" ++ levelText c.r ++ "," ++ levelText c.g ++
    "," ++ levelText c.b ++ ")\">"

/-- The span of a run. -/
def span (run : Run) : String :=
  run.glyphs.foldl (fun s c => s ++ escape c) (openingTag run.color) ++ "</span>"

/-- The end of a row. -/
def lineBreak : String := "<br>"

/-- The fragments of a row. -/
def rowFragments (row : List Cell) : List String := (Run.ofRow row).map span ++ [lineBreak]

/-- The fragments of a grid. -/
def fragments (g : Grid) : List String := g.rows.flatMap rowFragments

/-- Emits fragments as long as they fit the room. -/
def emit : List String → (room : Nat) → (out : String) → String
  | [], _, out => out
  | fragment :: rest, room, out =>
    if fragment.utf8ByteSize ≤ room then
      emit rest (room - fragment.utf8ByteSize) (out ++ fragment)
    else out

/-- The markup of a grid, as much of it as fits the capacity. -/
def render (capacity : Nat) (g : Grid) : String := emit (fragments g) capacity ""

/-- Writes fragments behind the output as long as what was written so far leaves room for them. -/
def writeFragments (capacity : Nat) : List String → (written : Nat) → (out : ByteArray) → ByteArray
  | [], _, out => out
  | fragment :: rest, written, out =>
    if capacity < written + fragment.utf8ByteSize then out
    else writeFragments capacity rest (written + fragment.utf8ByteSize) (out ++ fragment.toUTF8)

/-- Room for a grid of the default size: 48 bytes a cell. -/
def defaultCapacity : Nat := 240 * 80 * 48

end Html

end GlyphMosaic
