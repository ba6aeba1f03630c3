import GlyphMosaic.Export.Html

/-!
# Reading HTML markup back

`Html.read?` reads the markup of whole grids: spans of coloured text, and a line break behind each
row.  The text is cut into tokens first, where the five escapes stand for their characters, and the
tokens are then placed on a page.
-/

namespace GlyphMosaic

namespace Html

/-- The pieces of markup. -/
inductive Token where
  /-- The opening tag of a span. -/
  | opening (color : Rgb)
  /-- The closing tag of a span. -/
  | closing
  /-- The end of a row. -/
  | lineBreak
  /-- A character. -/
  | glyph (c : Char)

/-- The escapes. -/
def escapes : List (String × Char) :=
  [("&amp;", '&'), ("&lt;", '<'), ("&gt;", '>'), ("&quot;", '\"'), ("&#39;", '\'')]

/-- A character in front of the text; those that markup uses have to be escaped. -/
def glyph? (cs : List Char) : Option (Char × List Char) :=
  match escapes.findSome? fun entry => (behind? entry.1 cs).map fun rest => (entry.2, rest) with
  | some found => some found
  | none =>
    match cs with
    | [] => none
    | c :: rest => if (escapes.map Prod.snd).contains c then none else some (c, rest)

/-- The rest of an opening tag. -/
def color? (cs : List Char) : Option (Rgb × List Char) := do
  let (r, cs) ← readLevel? cs
  let (g, cs) ← readLevel? (← behind? "," cs)
  let (b, cs) ← readLevel? (← behind? "," cs)
  let cs ← behind? ")\">" cs
  return (⟨r, g, b⟩, cs)

/-- The first piece of a text. -/
def token? (cs : List Char) : Option (Token × List Char) :=
  if let some rest := behind? "<br>" cs then some (.lineBreak, rest)
  else if let some rest := behind? "</span>" cs then some (.closing, rest)
  else if let some rest := behind? "<span style=\"color:rgb(" cs then
    (color? rest).map fun found => (.opening found.1, found.2)
  else (glyph? cs).map fun found => (.glyph found.1, found.2)

/-- All pieces of a text, at most `fuel`. -/
def tokens? : (fuel : Nat) → List Char → Option (List Token)
  | _, [] => some []
  | 0, _ => none
  | fuel + 1, cs => do
    let (token, rest) ← token? cs
    let tokens ← tokens? fuel rest
    return token :: tokens

/-- Rows of cells as far as they were read. -/
structure Page where
  /-- The rows that are complete. -/
  rows : List (List Cell) := []
  /-- The cells of the current row. -/
  row : List Cell := []
  /-- The colour of the current span; none between spans. -/
  color : Option Rgb := none

/-- Places a piece.  Characters stand inside spans, and tags and breaks where they can. -/
def Page.place? (p : Page) : Token → Option Page
  | .opening color => if p.color.isSome then none else some { p with color := some color }
  | .closing => if p.color.isSome then some { p with color := none } else none
  | .lineBreak =>
    if p.color.isSome then none else some ⟨p.rows ++ [p.row], [], none⟩
  | .glyph c => p.color.map fun color => { p with row := p.row ++ [⟨c, color⟩] }

/-- The rows of cells that some markup shows. -/
def read? (markup : String) : Option (List (List Cell)) := do
  let cs := markup.toList
  let tokens ← tokens? cs.length cs
  let page ← tokens.foldlM Page.place? {}
  if page.row.isEmpty && page.color.isNone then return page.rows else none

end Html

end GlyphMosaic
