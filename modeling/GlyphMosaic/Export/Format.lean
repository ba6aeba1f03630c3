import GlyphMosaic.Export.Ansi

/-!
# Output formats

Every format writes a grid behind what is already in the output and tells how many bytes it wrote.
-/

namespace GlyphMosaic

/-- A way to write a grid. -/
inductive OutputFormat where
  /-- Four bytes a cell. -/
  | cells
  | text
  /-- Markup of at most `capacity` bytes. -/
  | html (capacity : Nat)
  | ansi

namespace OutputFormat

/-- The format with a name; ASCII case does not matter. -/
def ofName? (name : String) : Option OutputFormat :=
  let word := name.map Char.toLower
  if word = "cells" ∨ word = "bytes" then some .cells
  else if word = "text" ∨ word = "txt" then some .text
  else if word = "html" then some (.html Html.defaultCapacity)
  else if word = "ansi" then some .ansi
  else none

/-- The name of a format. -/
def name : OutputFormat → String
  | .cells => "cells"
  | .text => "text"
  | .html _ => "html"
  | .ansi => "ansi"

/-- The bytes of all cells, behind `out`. -/
def appendCellBytes (g : Grid) (out : ByteArray) : ByteArray :=
  g.cells.foldl (fun out c => c.bytes.foldl ByteArray.push out) out

/-- A text behind `out`. -/
def appendText (out : ByteArray) (s : String) : ByteArray := out ++ s.toUTF8

/-- Writes a grid behind `out`; the number tells how many bytes were written. -/
def serialize (f : OutputFormat) (g : Grid) (out : ByteArray) : ByteArray × Nat :=
  match f with
  | .cells => (appendCellBytes g out, g.cells.size * Cell.byteCount)
  | .text => counted (PlainText.appendGrid appendText out g)
  | .html capacity => counted (Html.writeFragments capacity (Html.fragments g) 0 out)
  | .ansi => counted (Ansi.appendGrid appendText out g)
where
  /-- The output, with the number of bytes by which it grew. -/
  counted (written : ByteArray) : ByteArray × Nat := (written, written.size - out.size)

end OutputFormat

end GlyphMosaic
