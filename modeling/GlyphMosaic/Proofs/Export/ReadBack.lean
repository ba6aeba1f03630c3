import GlyphMosaic.Proofs.Export.Levels
import GlyphMosaic.Proofs.Export.Markup
import GlyphMosaic.Proofs.Export.Rows

/-!
# Markup read back

The reader gets back from the markup of a grid what was written, whatever the glyphs are.

* `Html.token?_text` : a piece in front of a text is read back, and nothing but the piece.
* `Html.tokens?_texts` : so are pieces one behind the other.
* `Html.place_row` : the pieces of a row put the row on the page.
* `Html.read?_markup` : the rows of a grid are read back from its markup.
* `Html.serialize_reads_back` : **the output decodes to the grid and is that of no other one**.
-/

namespace GlyphMosaic

namespace Html

/-! ### Pieces -/

/-- The text of a piece. -/
def Token.text : Token → String
  | .opening color => openingTag color
  | .closing => "</span>"
  | .lineBreak => Html.lineBreak
  | .glyph c => escape c

theorem toList_openingTag (c : Rgb) (rest : List Char) : (openingTag c).toList ++ rest =
    "<span style=\"color:rgb(".toList ++ ((levelText c.r).toList ++ (",".toList ++
      ((levelText c.g).toList ++
        (",".toList ++ ((levelText c.b).toList ++ (")\">".toList ++ rest)))))) := by
  -- stated for any seven texts first, since rewriting is slow where some are literals
  have hparts (s₁ s₂ s₃ s₄ s₅ s₆ s₇ : String) :
      (s₁ ++ s₂ ++ s₃ ++ s₄ ++ s₅ ++ s₆ ++ s₇).toList ++ rest =
      s₁.toList ++ (s₂.toList ++ (s₃.toList ++ (s₄.toList ++ (s₅.toList ++ (s₆.toList ++
        (s₇.toList ++ rest)))))) := by
    simp only [String.toList_append, List.append_assoc]
  exact hparts _ _ _ _ _ _ _

theorem color?_text (c : Rgb) (rest : List Char) :
    color? ((levelText c.r).toList ++ (",".toList ++ ((levelText c.g).toList ++ (",".toList ++
      ((levelText c.b).toList ++ (")\">".toList ++ rest)))))) = some (c, rest) := by
  have hcomma (cs : List Char) : ∀ d ∈ (",".toList ++ cs).head?, d.isDigit = false := by simp
  have hend (cs : List Char) : ∀ d ∈ (")\">".toList ++ cs).head?, d.isDigit = false := by simp
  -- a level ends at the comma or the bracket behind it
  rw [color?, readLevel?_levelText c.r (hcomma _)]
  simp only [Option.bind_eq_bind, Option.bind_some, behind?_append]
  rw [readLevel?_levelText c.g (hcomma _)]
  simp only [Option.bind_some, behind?_append]
  rw [readLevel?_levelText c.b (hend _)]
  simp only [Option.bind_some, behind?_append]
  rfl

theorem token?_opening (rest : List Char) : token? ("<span style=\"color:rgb(".toList ++ rest) =
    (color? rest).map fun found => (.opening found.1, found.2) := by
  rw [token?, behind?_append_of_not_prefix rest (by decide) (by decide),
    behind?_append_of_not_prefix rest (by decide) (by decide), behind?_append]

theorem token?_escape {text : String} {c : Char} (h : (text, c) ∈ escapes) (rest : List Char) :
    token? (text.toList ++ rest) = some (.glyph c, rest) := by
  simp only [escapes, List.mem_cons, List.not_mem_nil, or_false, Prod.mk.injEq] at h
  rcases h with ⟨rfl, rfl⟩ | ⟨rfl, rfl⟩ | ⟨rfl, rfl⟩ | ⟨rfl, rfl⟩ | ⟨rfl, rfl⟩ <;> rfl

theorem token?_plain {c : Char} (h : c ∉ escapes.map Prod.snd) (rest : List Char) :
    token? (c :: rest) = some (.glyph c, rest) := by
  have hmark : '<' ≠ c := by rintro rfl; exact h (by decide)
  have hescape : '&' ≠ c := by rintro rfl; exact h (by decide)
  have hglyph : glyph? (c :: rest) = some (c, rest) := by
    -- all escapes start with an ampersand
    have hnone : escapes.findSome?
        (fun e => (behind? e.1 (c :: rest)).map fun rest => (e.2, rest)) = none := by
      rw [List.findSome?_eq_none_iff]
      intro e he
      have hhead : ∀ e ∈ escapes, e.1.toList.head? = some '&' := by decide
      rw [behind?_cons_of_ne rest (hhead e he) hescape]
      rfl
    rw [glyph?, hnone]
    simp [h]
  rw [token?, behind?_cons_of_ne rest rfl hmark, behind?_cons_of_ne rest rfl hmark,
    behind?_cons_of_ne rest rfl hmark, hglyph]
  rfl

/-- A piece in front of a text is read back. -/
theorem token?_text (t : Token) (rest : List Char) :
    token? (t.text.toList ++ rest) = some (t, rest) := by
  cases t with
  | opening color =>
    refine (congrArg token? (toList_openingTag color rest)).trans ?_
    rw [token?_opening, color?_text]
    rfl
  | closing => rfl
  | lineBreak => rfl
  | glyph c =>
    rw [Token.text]
    rcases escape_cases c with h | ⟨h, hc⟩
    · exact token?_escape h rest
    · rw [h, String.toList_singleton, List.singleton_append, token?_plain hc]

theorem tokens?_texts {tokens : List Token} {fuel : Nat}
    (h : (tokens.flatMap fun t => t.text.toList).length ≤ fuel) :
    tokens? fuel (tokens.flatMap fun t => t.text.toList) = some tokens := by
  refine readAll_texts (fun fuel => ?_) (fun fuel cs hcs => ?_) rfl _ (fun t _ => token?_text t) h
  · cases fuel <;> rfl
  · cases cs with
    | nil => exact absurd rfl hcs
    | cons c cs => rfl

/-! ### Pages -/

/-- The pieces of a run. -/
def runTokens (run : Run) : List Token := .opening run.color :: run.glyphs.map .glyph ++ [.closing]

/-- The pieces of a row. -/
def rowTokens (row : List Cell) : List Token := (Run.ofRow row).flatMap runTokens ++ [.lineBreak]

theorem toList_text (glyphs : List Char) :
    (text glyphs).toList = (glyphs.map Token.glyph).flatMap fun t => t.text.toList := by
  induction glyphs with
  | nil => rfl
  | cons c glyphs ih =>
    rw [text_cons, String.toList_append, ih]
    rfl

theorem toList_span (run : Run) :
    (span run).toList = (runTokens run).flatMap fun t => t.text.toList := by
  rw [span_eq, String.toList_append, String.toList_append, toList_text, runTokens, List.cons_append,
    List.flatMap_cons, List.flatMap_append, List.append_assoc]
  rfl

theorem toList_rowFragments (rows : List (List Cell)) :
    (String.join (rows.flatMap rowFragments)).toList =
      (rows.flatMap rowTokens).flatMap fun t => t.text.toList := by
  have hrow (row : List Cell) : (rowFragments row).flatMap String.toList =
      (rowTokens row).flatMap fun t => t.text.toList := by
    rw [rowFragments, rowTokens, List.flatMap_append, List.flatMap_append, List.flatMap_map,
      List.flatMap_assoc]
    simp only [toList_span]
    rfl
  rw [String.toList_join, List.flatMap_assoc, List.flatMap_assoc]
  simp only [hrow]

theorem toList_markup (g : Grid) :
    (markup g).toList = (g.rows.flatMap rowTokens).flatMap fun t => t.text.toList :=
  toList_rowFragments g.rows

theorem place_glyphs (rows : List (List Cell)) (row : List Cell) (color : Rgb)
    (glyphs : List Char) : (glyphs.map Token.glyph).foldlM Page.place? ⟨rows, row, some color⟩ =
      some ⟨rows, row ++ glyphs.map fun c => ⟨c, color⟩, some color⟩ := by
  induction glyphs generalizing row with
  | nil => simp
  | cons c glyphs ih =>
    rw [List.map_cons, List.foldlM_cons]
    refine (ih (row ++ [⟨c, color⟩])).trans ?_
    rw [List.append_assoc]
    rfl

theorem place_run (rows : List (List Cell)) (row : List Cell) (run : Run) :
    (runTokens run).foldlM Page.place? ⟨rows, row, none⟩ = some ⟨rows, row ++ run.cells, none⟩ := by
  rw [runTokens, List.cons_append, List.foldlM_cons]
  change (run.glyphs.map Token.glyph ++ [Token.closing]).foldlM Page.place?
    ⟨rows, row, some run.color⟩ = _
  rw [List.foldlM_append, place_glyphs]
  rfl

theorem place_runs (rows : List (List Cell)) (row : List Cell) (runs : List Run) :
    (runs.flatMap runTokens).foldlM Page.place? ⟨rows, row, none⟩ =
      some ⟨rows, row ++ runs.flatMap Run.cells, none⟩ := by
  induction runs generalizing row with
  | nil => simp
  | cons run runs ih =>
    rw [List.flatMap_cons, List.foldlM_append, place_run, List.flatMap_cons, ← List.append_assoc]
    exact ih _

/-- The pieces of a row put the row on the page. -/
theorem place_row (rows : List (List Cell)) (row : List Cell) :
    (rowTokens row).foldlM Page.place? ⟨rows, [], none⟩ = some ⟨rows ++ [row], [], none⟩ := by
  rw [rowTokens, List.foldlM_append, place_runs, Run.flatMap_cells_ofRow]
  rfl

theorem place_rows (rows rows' : List (List Cell)) :
    (rows'.flatMap rowTokens).foldlM Page.place? ⟨rows, [], none⟩ =
      some ⟨rows ++ rows', [], none⟩ := by
  induction rows' generalizing rows with
  | nil => simp
  | cons row rows' ih =>
    rw [List.flatMap_cons, List.foldlM_append, place_row]
    refine (ih (rows ++ [row])).trans ?_
    rw [List.append_assoc]
    rfl

/-- The rows of a grid are read back from its markup. -/
theorem read?_markup (g : Grid) : read? (markup g) = some g.rows := by
  have htokens : tokens? (markup g).toList.length (markup g).toList =
      some (g.rows.flatMap rowTokens) := by
    rw [toList_markup]
    exact tokens?_texts (Nat.le_refl _)
  have hpage : (g.rows.flatMap rowTokens).foldlM Page.place? {} = some ⟨g.rows, [], none⟩ :=
    place_rows [] g.rows
  rw [read?]
  simp only [htokens, Option.bind_eq_bind, Option.bind_some, hpage]
  rfl

/-! ### Output -/

/-- **The output decodes to the grid.**  With enough room for it, the output for a full grid with a
width is made of rows of spans, each row with a line break behind it.  No span is empty,
neighbouring spans have different colours, and the text of a span has nothing that markup uses but
the five escapes.  The rows that are read back from the output are those of the grid, cell by cell.
Unless there are none, no other full grid with a width has the same output. -/
theorem serialize_reads_back {g : Grid} (hg : g.IsFull) (hw : 0 < g.width.toNat) :
    ∃ (runs : List (List Run)) (rows : List (List Cell)),
      (∀ capacity out, (markup g).utf8ByteSize ≤ capacity →
        (OutputFormat.html capacity).serialize g out =
          (out ++ (markup g).toUTF8, (markup g).utf8ByteSize)) ∧
      markup g = String.join (runs.map fun row =>
        String.join (row.map fun run => openingTag run.color ++ text run.glyphs ++ "</span>") ++
          "<br>") ∧
      (∀ row ∈ runs, row.IsChain fun run next => run.color ≠ next.color) ∧
      (∀ row ∈ runs, ∀ run ∈ row, run.glyphs ≠ [] ∧ IsEscaped (text run.glyphs).toList) ∧
      runs.map (List.flatMap Run.cells) = rows ∧
      read? (markup g) = some rows ∧ g.IsCutInto rows ∧
      (0 < g.height.toNat → ∀ g' : Grid, g'.IsFull → 0 < g'.width.toNat → ∀ capacity capacity' out,
        (markup g).utf8ByteSize ≤ capacity → (markup g').utf8ByteSize ≤ capacity' →
        ((OutputFormat.html capacity).serialize g out).1 =
          ((OutputFormat.html capacity').serialize g' out).1 → g = g') := by
  refine ⟨g.rows.map Run.ofRow, g.rows, fun capacity out h => serialize_of_le h out, ?_, ?_, ?_, ?_,
    read?_markup g, hg.isCutInto_rows hw, ?_⟩
  · rw [markup_eq_join, List.map_map]
    rfl
  · intro row hrow
    obtain ⟨cells, -, rfl⟩ := List.mem_map.1 hrow
    exact Run.isChain_ofRow cells
  · intro row hrow run hrun
    obtain ⟨cells, -, rfl⟩ := List.mem_map.1 hrow
    exact ⟨Run.glyphs_ne_nil cells run hrun, isEscaped_text run.glyphs⟩
  · rw [List.map_map]
    exact List.map_id'' Run.flatMap_cells_ofRow g.rows
  · -- the same bytes are the same text, from which the same rows are read
    intro hh g' hg' hw' capacity capacity' out hroom hroom' h
    rw [serialize_of_le hroom, serialize_of_le hroom'] at h
    have hmarkup : markup g = markup g' := String.toByteArray_inj.1 (by simpa using h)
    have hrows : some g.rows = some g'.rows := by rw [← read?_markup, hmarkup, read?_markup]
    exact hg.eq_of_rows hg' hw hw' hh (Option.some.inj hrows)

/-- Two signs that markup uses, in two colours. -/
def signs : Grid := ⟨2, 1, #[⟨'<', ⟨255, 0, 0⟩⟩, ⟨'&', ⟨0, 128, 0⟩⟩]⟩

theorem serialize_reads_back_signs : ∃ rows row, read? (markup signs) = some rows ∧
    rows.length = 1 ∧ rows[0]? = some row ∧ row.length = 2 ∧ row[0]? = some ⟨'<', ⟨255, 0, 0⟩⟩ ∧
    row[1]? = some ⟨'&', ⟨0, 128, 0⟩⟩ ∧
    ∀ out, ((OutputFormat.html 200).serialize signs out).1 ≠
      ((OutputFormat.html 200).serialize ⟨1, 1, #[⟨'<', ⟨255, 0, 0⟩⟩]⟩ out).1 := by
  obtain ⟨runs, rows, -, -, -, -, -, hread, hcut, hunique⟩ :=
    serialize_reads_back (show signs.IsFull by decide) (by decide)
  obtain ⟨row, hrow, hlength, hcells⟩ := hcut.row 0 (by decide)
  refine ⟨rows, row, hread, hcut.length, hrow, hlength, hcells 0 (by decide), hcells 1 (by decide),
    fun out h => ?_⟩
  have hsame := hunique (by decide) ⟨1, 1, #[⟨'<', ⟨255, 0, 0⟩⟩]⟩ (by decide) (by decide) 200 200
    out (by decide) (by decide) h
  exact absurd (congrArg Grid.width hsame) (by decide)

end Html

end GlyphMosaic
