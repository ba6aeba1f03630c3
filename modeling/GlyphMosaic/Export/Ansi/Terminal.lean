import GlyphMosaic.Export.Ansi

/-!
# A terminal

A terminal keeps a current colour.  Escape sequences set it or clear it, a line feed ends the row
and clears it, and any other character is shown in it.  `Ansi.show?` is what a terminal shows, and
`Ansi.plain?` is the text without its escape sequences.
-/

namespace GlyphMosaic

namespace Ansi

/-- What is sent to a terminal. -/
inductive Signal where
  /-- Sets the colour. -/
  | color (c : Rgb)
  /-- Clears the colour. -/
  | reset
  /-- Shows a character. -/
  | glyph (c : Char)
  /-- Ends the row. -/
  | lineFeed

/-- The rest of an escape sequence. -/
def escape? (cs : List Char) : Option (Signal × List Char) :=
  if let some rest := behind? "[0m" cs then some (.reset, rest)
  else do
    let (r, cs) ← readLevel? (← behind? "[38;2;" cs)
    let (g, cs) ← readLevel? (← behind? ";" cs)
    let (b, cs) ← readLevel? (← behind? ";" cs)
    let cs ← behind? "m" cs
    return (.color ⟨r, g, b⟩, cs)

/-- The first signal of a text. -/
def signal? : List Char → Option (Signal × List Char)
  | [] => none
  | c :: rest =>
    if c = '\x1b' then escape? rest
    else if c = '\n' then some (.lineFeed, rest)
    else some (.glyph c, rest)

/-- All signals of a text, at most `fuel`. -/
def signals? : (fuel : Nat) → List Char → Option (List Signal)
  | _, [] => some []
  | 0, _ => none
  | fuel + 1, cs => do
    let (signal, rest) ← signal? cs
    let signals ← signals? fuel rest
    return signal :: signals

/-- The signals of a text. -/
def signalsOf? (text : String) : Option (List Signal) := signals? text.toList.length text.toList

/-- What a terminal shows, and its colour. -/
structure Screen where
  /-- The rows that were ended. -/
  rows : List (List Cell) := []
  /-- The current row. -/
  row : List Cell := []
  /-- The current colour. -/
  color : Option Rgb := none

/-- The screen after a signal.  A character needs a colour. -/
def Screen.take? (s : Screen) : Signal → Option Screen
  | .color c => some { s with color := some c }
  | .reset => some { s with color := none }
  | .glyph c => s.color.map fun color => { s with row := s.row ++ [⟨c, color⟩] }
  | .lineFeed => some ⟨s.rows ++ [s.row], [], none⟩

/-- The rows of cells that a terminal shows. -/
def show? (text : String) : Option (List (List Cell)) := do
  let signals ← signalsOf? text
  let screen ← signals.foldlM Screen.take? {}
  if screen.row.isEmpty then return screen.rows else none

/-- The characters of a signal that are shown. -/
def Signal.shown : Signal → List Char
  | .glyph c => [c]
  | .lineFeed => ['\n']
  | .color _ | .reset => []

/-- The text without its escape sequences. -/
def plain? (text : String) : Option String := do
  let signals ← signalsOf? text
  return String.ofList (signals.flatMap Signal.shown)

end Ansi

end GlyphMosaic
