import GlyphMosaic.Export.Ansi.Terminal
import GlyphMosaic.Proofs.Export.Appending
import GlyphMosaic.Proofs.Export.Levels

/-!
# Terminal output shown

A terminal shows the grid that its output was made of, provided that no glyph is an escape character
or a line feed.

* `toList_foldl` : the characters that are appended step by step.
* `Ansi.rowSignals`, `Ansi.toList_render` : the output as signals, row by row.
* `Ansi.signal?_text`, `Ansi.signalsOf?_render` : the signals are read back from it.
* `Ansi.Screen.Reaches` : signals lead from one screen to another one, each where it is called for.
  The invariant of a row is that the colour is that of the last cell (`Ansi.reaches_row`).
* `Ansi.serialize_shows` : **the output shows the grid**, and without its escape sequences it is the
  plain text, a line for each row.
-/

namespace GlyphMosaic

theorem toList_foldl {α : Type} {append : String → α → String} {text : α → List Char}
    (h : ∀ out x, (append out x).toList = out.toList ++ text x) (out : String) (xs : List α) :
    (xs.foldl append out).toList = out.toList ++ xs.flatMap text := by
  induction xs generalizing out with
  | nil => simp
  | cons x xs ih => rw [List.foldl_cons, ih, h, List.append_assoc, List.flatMap_cons]

/-! ### Plain text -/

namespace PlainText

/-- The characters of a row and a line feed. -/
def rowText (row : List Cell) : List Char := row.map Cell.glyph ++ ['\n']

theorem toList_render (g : Grid) : (render g).toList = g.rows.flatMap rowText := by
  have hrow (out : String) (row : List Cell) :
      (appendRow (· ++ ·) out row).toList = out.toList ++ rowText row := by
    have hglyphs : (row.foldl (fun s c => s ++ String.singleton c.glyph) out).toList =
        out.toList ++ row.flatMap fun c => [c.glyph] :=
      toList_foldl (fun s c => by rw [String.toList_append, String.toList_singleton]) out row
    rw [appendRow, String.toList_append, hglyphs, List.append_assoc, ← List.map_eq_flatMap, rowText]
    rfl
  exact toList_foldl hrow "" g.rows

/-- A text of lines, each with a line feed behind it and none in it, is cut into them. -/
theorem splitOn_rowText {rows : List (List Cell)} (h : ∀ row ∈ rows, ∀ c ∈ row, c.glyph ≠ '\n') :
    (rows.flatMap rowText).splitOn '\n' = rows.map (List.map Cell.glyph) ++ [[]] := by
  induction rows with
  | nil => rfl
  | cons row rows ih =>
    have hline : '\n' ∉ row.map Cell.glyph := by
      rw [List.mem_map]
      rintro ⟨c, hc, hfeed⟩
      exact h row List.mem_cons_self c hc hfeed
    rw [List.flatMap_cons, rowText, List.append_assoc, List.singleton_append,
      List.splitOn_append_cons_self_of_not_mem hline,
      ih fun r hr => h r (List.mem_cons_of_mem _ hr)]
    rfl

end PlainText

namespace Ansi

/-! ### Signals -/

/-- The text of a signal. -/
def Signal.text : Signal → String
  | .color c => "\x1b[38;2;" ++ levelText c.r ++ ";" ++ levelText c.g ++ ";" ++ levelText c.b ++ "m"
  | .reset => "\x1b[0m"
  | .glyph c => String.singleton c
  | .lineFeed => "\n"

/-- The signals of the rest of a row: a colour where it is not the current one. -/
def rowSignals : (current : Option Rgb) → (row : List Cell) → List Signal
  | _, [] => [.reset, .lineFeed]
  | current, c :: row =>
    (if current = some c.color then [] else [.color c.color]) ++
      .glyph c.glyph :: rowSignals (some c.color) row

/-- The signals of a grid. -/
def gridSignals (g : Grid) : List Signal := g.rows.flatMap (rowSignals none)

theorem toList_appendRow (row : List Cell) (out : String) (current : Option Rgb) :
    ((row.foldl (appendCell (· ++ ·)) (out, current)).1 ++ reset ++ "\n").toList =
      out.toList ++ (rowSignals current row).flatMap fun s => s.text.toList := by
  induction row generalizing out current with
  | nil =>
    rw [List.foldl_nil, String.toList_append, String.toList_append, List.append_assoc]
    rfl
  | cons c row ih =>
    rw [List.foldl_cons, appendCell, ih, String.toList_append, rowSignals, List.flatMap_append,
      List.flatMap_cons, Signal.text, String.toList_singleton]
    by_cases hcolor : current = some c.color
    · simp [hcolor]
    · simp [hcolor, Signal.text, setColor]

theorem toList_render (g : Grid) :
    (render g).toList = (gridSignals g).flatMap fun s => s.text.toList := by
  rw [gridSignals, List.flatMap_assoc]
  exact toList_foldl (fun out row => toList_appendRow row out none) "" g.rows

/-! ### Signals read back -/

theorem toList_color (c : Rgb) (rest : List Char) : (Signal.color c).text.toList ++ rest =
    '\x1b' :: ("[38;2;".toList ++
      ((levelText c.r).toList ++ (";".toList ++ ((levelText c.g).toList ++
      (";".toList ++ ((levelText c.b).toList ++ ("m".toList ++ rest))))))) := by
  simp [Signal.text]

theorem escape?_color (c : Rgb) (rest : List Char) :
    escape? ("[38;2;".toList ++ ((levelText c.r).toList ++ (";".toList ++ ((levelText c.g).toList ++
      (";".toList ++ ((levelText c.b).toList ++ ("m".toList ++ rest))))))) =
        some (.color c, rest) := by
  have hsemicolon (cs : List Char) : ∀ d ∈ (";".toList ++ cs).head?, d.isDigit = false := by simp
  have hend (cs : List Char) : ∀ d ∈ ("m".toList ++ cs).head?, d.isDigit = false := by simp
  rw [escape?, behind?_append_of_not_prefix _ (by decide) (by decide)]
  -- a level ends at the semicolon or the letter behind it
  simp only [Option.bind_eq_bind, behind?_append, Option.bind_some]
  rw [readLevel?_levelText c.r (hsemicolon _)]
  simp only [Option.bind_some, behind?_append]
  rw [readLevel?_levelText c.g (hsemicolon _)]
  simp only [Option.bind_some, behind?_append]
  rw [readLevel?_levelText c.b (hend _)]
  simp only [Option.bind_some, behind?_append]
  rfl

/-- A signal in front of a text is read back, unless it is a glyph that terminals take for another
one. -/
theorem signal?_text {s : Signal} (h : ∀ c, s = .glyph c → c ≠ '\x1b' ∧ c ≠ '\n')
    (rest : List Char) : signal? (s.text.toList ++ rest) = some (s, rest) := by
  cases s with
  | color c =>
    rw [toList_color]
    exact escape?_color c rest
  | reset => rfl
  | glyph c =>
    obtain ⟨hescape, hfeed⟩ := h c rfl
    rw [Signal.text, String.toList_singleton, List.singleton_append, signal?,
      if_neg hescape, if_neg hfeed]
  | lineFeed => rfl

theorem signals?_texts {signals : List Signal} {fuel : Nat}
    (h : ∀ c, Signal.glyph c ∈ signals → c ≠ '\x1b' ∧ c ≠ '\n')
    (hfuel : (signals.flatMap fun s => s.text.toList).length ≤ fuel) :
    signals? fuel (signals.flatMap fun s => s.text.toList) = some signals := by
  have hempty : signal? [] = none := rfl
  refine readAll_texts (fun fuel => ?_) (fun fuel cs hcs => ?_) hempty _ (fun s hs rest => ?_) hfuel
  · cases fuel <;> rfl
  · cases cs with
    | nil => exact absurd rfl hcs
    | cons c cs => rfl
  · exact signal?_text (fun c hc => h c (hc ▸ hs)) rest

theorem exists_of_glyph_mem {row : List Cell} {current : Option Rgb} {c : Char}
    (h : .glyph c ∈ rowSignals current row) : ∃ cell ∈ row, cell.glyph = c := by
  induction row generalizing current with
  | nil => simp [rowSignals] at h
  | cons cell row ih =>
    rw [rowSignals, List.mem_append, List.mem_cons] at h
    rcases h with h | h | h
    · split at h <;> simp at h
    · exact ⟨cell, List.mem_cons_self, (Signal.glyph.inj h).symm⟩
    · obtain ⟨cell', hcell', hc⟩ := ih h
      exact ⟨cell', List.mem_cons_of_mem _ hcell', hc⟩

theorem mem_cells_of_mem_rows {g : Grid} {row : List Cell} {cell : Cell} (hrow : row ∈ g.rows)
    (hcell : cell ∈ row) : cell ∈ g.cells := by
  rw [← Array.mem_toList_iff, ← Grid.flatten_rows]
  exact List.mem_flatten.2 ⟨row, hrow, hcell⟩

theorem signalsOf?_render {g : Grid}
    (h : ∀ cell ∈ g.cells, cell.glyph ≠ '\x1b' ∧ cell.glyph ≠ '\n') :
    signalsOf? (render g) = some (gridSignals g) := by
  rw [signalsOf?, toList_render]
  refine signals?_texts (fun c hc => ?_) (Nat.le_refl _)
  obtain ⟨row, hrow, hc⟩ := List.mem_flatMap.1 hc
  obtain ⟨cell, hcell, rfl⟩ := exists_of_glyph_mem hc
  exact h cell (mem_cells_of_mem_rows hrow hcell)

/-! ### Screens -/

namespace Screen

/-- Where a signal is called for.  A colour is set for the glyph behind it, and only if it is not
that of the cell before in the same row.  A glyph needs a colour, and a row ends without one. -/
def CallsFor (s : Screen) : Signal → (rest : List Signal) → Prop
  | .color c, rest =>
    (∀ last ∈ s.row.getLast?, last.color ≠ c) ∧ ∃ glyph behind, rest = .glyph glyph :: behind
  | .glyph _, _ => s.color ≠ none
  | .lineFeed, _ => s.color = none
  | .reset, _ => True

/-- Signals lead from one screen to another one, each where it is called for. -/
inductive Reaches : Screen → List Signal → Screen → Prop
  | refl (s : Screen) : Reaches s [] s
  | step {s s' s'' : Screen} {signal : Signal} {rest : List Signal}
      (hcalls : s.CallsFor signal rest)
      (htake : s.take? signal = some s') (hrest : Reaches s' rest s'') :
      Reaches s (signal :: rest) s''

variable {s s' s'' : Screen} {signals behind : List Signal}

theorem CallsFor.append {signal : Signal} (h : s.CallsFor signal signals) (behind : List Signal) :
    s.CallsFor signal (signals ++ behind) := by
  cases signal with
  | color c =>
    obtain ⟨hlast, glyph, rest, rfl⟩ := h
    exact ⟨hlast, glyph, rest ++ behind, rfl⟩
  | glyph _ => exact h
  | lineFeed => exact h
  | reset => trivial

theorem Reaches.append (h : s.Reaches signals s') (h' : s'.Reaches behind s'') :
    s.Reaches (signals ++ behind) s'' := by
  induction h with
  | refl s => exact h'
  | step hcalls htake _ ih => exact .step (hcalls.append behind) htake (ih h')

theorem Reaches.foldlM_eq (h : s.Reaches signals s') : signals.foldlM take? s = some s' := by
  induction h with
  | refl s => rfl
  | step _ htake _ ih =>
    rw [List.foldlM_cons, htake]
    exact ih

end Screen

open Screen

/-- The signals of the rest of a row show it, if the colour is that of the last cell shown in the
row. -/
theorem reaches_row (rows : List (List Cell)) (row cells : List Cell) :
    Reaches ⟨rows, cells, cells.getLast?.map Cell.color⟩
      (rowSignals (cells.getLast?.map Cell.color) row)
      ⟨rows ++ [cells ++ row], [], none⟩ := by
  induction row generalizing cells with
  | nil =>
    rw [List.append_nil]
    exact .step trivial rfl (.step rfl rfl (.refl _))
  | cons c row ih =>
    have hlast : (cells ++ [c]).getLast?.map Cell.color = some c.color := by
      rw [List.getLast?_concat]
      rfl
    have hrest := ih (cells ++ [c])
    rw [hlast, List.append_assoc, List.singleton_append] at hrest
    have hglyph : Reaches ⟨rows, cells, some c.color⟩
        (.glyph c.glyph :: rowSignals (some c.color) row)
        ⟨rows ++ [cells ++ c :: row], [], none⟩ := .step (Option.some_ne_none c.color) rfl hrest
    rw [rowSignals]
    split
    · rename_i hsame
      rw [hsame]
      exact hglyph
    · rename_i hother
      refine .step ⟨fun last hmem hcolor => hother ?_, _, _, rfl⟩ rfl hglyph
      rw [Option.mem_def.1 hmem, ← hcolor]
      rfl

theorem reaches_rows (rows rows' : List (List Cell)) :
    Reaches ⟨rows, [], none⟩ (rows'.flatMap (rowSignals none)) ⟨rows ++ rows', [], none⟩ := by
  induction rows' generalizing rows with
  | nil =>
    rw [List.append_nil]
    exact .refl _
  | cons row rows' ih =>
    have hrest := ih (rows ++ [row])
    rw [List.append_assoc, List.singleton_append] at hrest
    rw [List.flatMap_cons]
    exact (reaches_row rows row []).append hrest

theorem flatMap_shown_rowSignals (current : Option Rgb) (row : List Cell) :
    (rowSignals current row).flatMap Signal.shown = PlainText.rowText row := by
  induction row generalizing current with
  | nil => rfl
  | cons c row ih =>
    rw [rowSignals, List.flatMap_append, List.flatMap_cons, ih]
    split <;> rfl

/-! ### Output -/

/-- **The output shows the grid.**  For a full grid with a width, no glyph of which is an escape
character or a line feed, the output is made of signals, which are read back from it: each sets a
colour, resets it, shows a glyph or ends a row.  A colour is set for the glyph behind it and only
where it is not that of the cell before in the same row; no glyph is shown without one, and none is
left at the end of a row.  The rows that a terminal shows are those of the grid, cell by cell.
Without its escape sequences the output is that of the plain text, which line feeds cut into a line
for each row, with a glyph for each of its cells. -/
theorem serialize_shows {g : Grid} (hg : g.IsFull) (hw : 0 < g.width.toNat)
    (hglyphs : ∀ cell ∈ g.cells, cell.glyph ≠ '\x1b' ∧ cell.glyph ≠ '\n') :
    ∃ (signals : List Signal) (rows : List (List Cell)) (lines : List (List Char)),
      (∀ out, OutputFormat.ansi.serialize g out =
        (out ++ (render g).toUTF8, (render g).utf8ByteSize)) ∧
      render g = String.join (signals.map Signal.text) ∧ signalsOf? (render g) = some signals ∧
      Reaches {} signals ⟨rows, [], none⟩ ∧ show? (render g) = some rows ∧ g.IsCutInto rows ∧
      (∀ out, OutputFormat.text.serialize g out =
        (out ++ (PlainText.render g).toUTF8, (PlainText.render g).utf8ByteSize)) ∧
      plain? (render g) = some (PlainText.render g) ∧
      (PlainText.render g).toList.splitOn '\n' = lines ++ [[]] ∧
      lines = rows.map (List.map Cell.glyph) ∧ lines.length = g.height.toNat ∧
      ∀ line ∈ lines, line.length = g.width.toNat := by
  have hsignals := signalsOf?_render hglyphs
  have hreaches : Reaches {} (gridSignals g) ⟨g.rows, [], none⟩ := reaches_rows [] g.rows
  have hcut := hg.isCutInto_rows hw
  refine ⟨gridSignals g, g.rows, g.rows.map (List.map Cell.glyph),
    OutputFormat.serialize_eq .ansi g, ?_,
    hsignals, hreaches, ?_, hcut, OutputFormat.serialize_eq .text g, ?_, ?_, rfl, ?_, ?_⟩
  · rw [← String.toList_inj, toList_render, String.toList_join, List.flatMap_map]
  · rw [show?]
    simp only [hsignals, Option.bind_eq_bind, Option.bind_some, hreaches.foldlM_eq]
    rfl
  · rw [plain?]
    simp only [hsignals, Option.bind_eq_bind, Option.bind_some]
    rw [gridSignals, List.flatMap_assoc, funext (flatMap_shown_rowSignals none),
      ← PlainText.toList_render, String.ofList_toList]
    rfl
  · rw [PlainText.toList_render]
    exact PlainText.splitOn_rowText fun row hrow c hc =>
      (hglyphs c (mem_cells_of_mem_rows hrow hc)).2
  · rw [List.length_map, hcut.length]
  · intro line hline
    obtain ⟨row, hrow, rfl⟩ := List.mem_map.1 hline
    obtain ⟨y, hy⟩ := List.mem_iff_getElem?.1 hrow
    have hlt : y < g.height.toNat := by
      rw [← hcut.length]
      exact (List.getElem?_eq_some_iff.1 hy).1
    obtain ⟨row', hrow', hlength, -⟩ := hcut.row y hlt
    rw [hy] at hrow'
    cases hrow'
    rw [List.length_map, hlength]

/-- Three red cells and a blue one in two rows; the second row starts in the colour the first one
ended in. -/
def redRows : Grid :=
  ⟨2, 2, #[⟨'█', ⟨255, 0, 0⟩⟩, ⟨'3', ⟨255, 0, 0⟩⟩, ⟨'m', ⟨255, 0, 0⟩⟩, ⟨'#', ⟨0, 0, 255⟩⟩]⟩

/-- The colour of the second row is set again, since none is left at the end of the first one. -/
theorem serialize_shows_redRows : ∃ rows row lines, show? (render redRows) = some rows ∧
    rows.length = 2 ∧ rows[1]? = some row ∧ row.length = 2 ∧ row[0]? = some ⟨'m', ⟨255, 0, 0⟩⟩ ∧
    row[1]? = some ⟨'#', ⟨0, 0, 255⟩⟩ ∧ plain? (render redRows) = some "█3\nm#\n" ∧
    (PlainText.render redRows).toList.splitOn '\n' = lines ++ [[]] ∧ lines.length = 2 := by
  obtain ⟨signals, rows, lines, -, -, -, -, hshow, hcut, -, hplain, hsplit, -, hcount, -⟩ :=
    serialize_shows (show redRows.IsFull by decide) (by decide) (by decide)
  obtain ⟨row, hrow, hlength, hcells⟩ := hcut.row 1 (by decide)
  exact ⟨rows, row, lines, hshow, hcut.length, hrow, hlength, hcells 0 (by decide),
    hcells 1 (by decide), hplain, hsplit, hcount⟩

example : render redRows =
    "\x1b[38;2;255;0;0m█3\x1b[0m\n\x1b[38;2;255;0;0mm\x1b[38;2;0;0;255m#\x1b[0m\n" := by decide

end Ansi

end GlyphMosaic
