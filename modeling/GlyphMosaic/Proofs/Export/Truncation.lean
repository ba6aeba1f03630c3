import GlyphMosaic.Proofs.Export.ReadBack

/-!
# Truncated markup

Where the room is short, the output ends between two fragments.

* `Html.IsLongestFit` : the longest beginning of some fragments that fits a room.
* `Html.emit_isLongestFit` : that is what is emitted.
* `Html.isPrefix_fragments` : a beginning of the fragments is whole rows and whole spans of the next
  one, so that `Html.page?_fragments` reads it back with no span left open.
* `Html.serialize_truncates` : **the output is the longest beginning that fits**; more room makes it
  longer and it is whole exactly if there is room for the whole.
-/

namespace GlyphMosaic

namespace Run

theorem isPrefix_flatMap_cells {runs : List Run} {row : List Cell} (h : runs <+: ofRow row) :
    runs.flatMap cells <+: row := by
  obtain ⟨rest, hrest⟩ := h
  refine ⟨rest.flatMap cells, ?_⟩
  rw [← List.flatMap_append, hrest, flatMap_cells_ofRow]

end Run

namespace Html

/-! ### What fits -/

/-- The longest beginning of some fragments that fits a room. -/
structure IsLongestFit (fragments : List String) (room : Nat) (emitted : List String) : Prop where
  /-- It is a beginning. -/
  isPrefix : emitted <+: fragments
  /-- It fits. -/
  fits : (String.join emitted).utf8ByteSize ≤ room
  /-- No other one that fits is longer. -/
  longest : ∀ others, others <+: fragments → (String.join others).utf8ByteSize ≤ room →
    others <+: emitted

variable {parts emitted emitted' : List String} {room room' : Nat}

theorem emit_isLongestFit (parts : List String) (room : Nat) : ∃ emitted,
    IsLongestFit parts room emitted ∧ ∀ out, emit parts room out = out ++ String.join emitted := by
  induction parts generalizing room with
  | nil =>
    refine ⟨[], ⟨List.prefix_refl [], Nat.zero_le room, fun others h _ => h⟩, fun out => ?_⟩
    exact (String.append_empty).symm
  | cons part rest ih =>
    by_cases hroom : part.utf8ByteSize ≤ room
    · obtain ⟨emitted, hfit, hemit⟩ := ih (room - part.utf8ByteSize)
      refine ⟨part :: emitted, ⟨?_, ?_, ?_⟩, fun out => ?_⟩
      · exact List.cons_prefix_cons.2 ⟨rfl, hfit.isPrefix⟩
      · have := hfit.fits
        rw [String.join_cons, String.utf8ByteSize_append]
        omega
      · intro others hothers hsize
        rcases List.prefix_cons_iff.1 hothers with rfl | ⟨tail, rfl, htail⟩
        · exact List.nil_prefix
        · rw [String.join_cons, String.utf8ByteSize_append] at hsize
          exact List.cons_prefix_cons.2 ⟨rfl, hfit.longest tail htail (by omega)⟩
      · rw [emit, if_pos hroom, hemit, String.join_cons, String.append_assoc]
    · refine ⟨[], ⟨List.nil_prefix, Nat.zero_le room, ?_⟩, fun out => ?_⟩
      · intro others hothers hsize
        rcases List.prefix_cons_iff.1 hothers with rfl | ⟨tail, rfl, -⟩
        · exact List.nil_prefix
        · -- the first fragment alone is too long
          rw [String.join_cons, String.utf8ByteSize_append] at hsize
          omega
      · rw [emit, if_neg hroom]
        exact (String.append_empty).symm

/-- The first fragment that does not fit ends the output, also where a later one would fit. -/
example : emit ["ab", "cde", "f"] 4 "" = "ab" := by decide

theorem IsLongestFit.isPrefix_of_le (h : IsLongestFit parts room emitted)
    (h' : IsLongestFit parts room' emitted') (hle : room ≤ room') : emitted <+: emitted' :=
  h'.longest emitted h.isPrefix (Nat.le_trans h.fits hle)

theorem IsLongestFit.join_eq_iff (h : IsLongestFit parts room emitted) :
    String.join emitted = String.join parts ↔ (String.join parts).utf8ByteSize ≤ room := by
  constructor
  · intro heq
    rw [← heq]
    exact h.fits
  · intro hsize
    have hall := h.longest parts (List.prefix_refl parts) hsize
    rw [h.isPrefix.eq_of_length_le hall.length_le]

/-! ### Whole rows and spans -/

/-- A beginning of the fragments of rows is that of some rows and some spans of the next one. -/
theorem isPrefix_fragments {rows : List (List Cell)} (h : emitted <+: rows.flatMap rowFragments) :
    ∃ k runs, k ≤ rows.length ∧ runs <+: Run.ofRow (rows.getD k []) ∧
      emitted = (rows.take k).flatMap rowFragments ++ runs.map span := by
  induction rows generalizing emitted with
  | nil => exact ⟨0, [], Nat.zero_le 0, List.nil_prefix, List.prefix_nil.1 h⟩
  | cons row rows ih =>
    rw [List.flatMap_cons] at h
    rcases List.prefix_or_prefix_of_prefix h (List.prefix_append _ _) with hrow | ⟨rest, rfl⟩
    · -- it ends in the first row, behind its break or before it
      rcases List.prefix_concat_iff.1 hrow with rfl | hspans
      · exact ⟨1, [], by simp, List.nil_prefix, by simp [rowFragments]⟩
      · obtain ⟨runs, hruns, rfl⟩ := List.prefix_map_iff.1 hspans
        exact ⟨0, runs, Nat.zero_le _, hruns, by simp⟩
    · obtain ⟨k, runs, hk, hruns, rfl⟩ := ih ((List.prefix_append_right_inj _).1 h)
      exact ⟨k + 1, runs, Nat.succ_le_succ hk, hruns, by simp⟩

/-- What the pieces of some markup put on a page, if it has nothing else. -/
def page? (markup : String) : Option Page := do
  let cs := markup.toList
  let tokens ← tokens? cs.length cs
  tokens.foldlM Page.place? {}

/-- Rows and spans are read back, and no span is left open. -/
theorem page?_fragments (rows : List (List Cell)) (runs : List Run) :
    page? (String.join (rows.flatMap rowFragments ++ runs.map span)) =
      some ⟨rows, runs.flatMap Run.cells, none⟩ := by
  have htext : (String.join (rows.flatMap rowFragments ++ runs.map span)).toList =
      (rows.flatMap rowTokens ++ runs.flatMap runTokens).flatMap fun t => t.text.toList := by
    rw [String.join_append, String.toList_append, toList_rowFragments, String.toList_join,
      List.flatMap_append, List.flatMap_map, List.flatMap_assoc (l := runs)]
    simp only [toList_span]
  have hplace : (rows.flatMap rowTokens ++ runs.flatMap runTokens).foldlM Page.place? {} =
      some ⟨rows, runs.flatMap Run.cells, none⟩ := by
    rw [List.foldlM_append]
    have hrows : (rows.flatMap rowTokens).foldlM Page.place? {} = some ⟨rows, [], none⟩ :=
      place_rows [] rows
    rw [hrows]
    exact place_runs rows [] runs
  rw [page?, htext]
  simp only [tokens?_texts (Nat.le_refl _), Option.bind_eq_bind, Option.bind_some, hplace]

/-! ### Output -/

theorem serialize_of_isLongestFit {g : Grid} (h : IsLongestFit (fragments g) room emitted)
    (out : ByteArray) : (OutputFormat.html room).serialize g out =
      (out ++ (String.join emitted).toUTF8, (String.join emitted).utf8ByteSize) := by
  obtain ⟨emitted', h', hemit⟩ := emit_isLongestFit (fragments g) room
  -- there is one longest beginning only
  have hsame : emitted = emitted' := (h.isPrefix_of_le h' (Nat.le_refl room)).eq_of_length_le
    (h'.isPrefix_of_le h (Nat.le_refl room)).length_le
  have hrender : render room g = String.join emitted := by
    rw [render, hemit, String.empty_append, hsame]
  rw [OutputFormat.serialize_eq, OutputFormat.content, hrender]
  rfl

/-- **The output is the longest beginning of the fragments that fits.**  The fragments of a grid
are, for each of its rows, one span for each longest run of one colour and a line break, and what is
emitted is as many of them as fit the capacity, from the first one on.  It is read back as the first
rows of the grid and some first cells of the next one, with no span left open and no other text.
More room only adds bytes at its end, and it is the whole markup exactly if there is room for
that. -/
theorem serialize_truncates (g : Grid) (capacity : Nat) (out : ByteArray) :
    ∃ (runs : List (List Run)) (parts emitted : List String) (page : Page),
      runs.map (List.flatMap Run.cells) = g.rows ∧
      (∀ row ∈ runs, (∀ run ∈ row, run.glyphs ≠ []) ∧
        row.IsChain fun run next => run.color ≠ next.color) ∧
      (parts = runs.flatMap fun row =>
        row.map (fun run => openingTag run.color ++ text run.glyphs ++ "</span>") ++ ["<br>"]) ∧
      markup g = String.join parts ∧ IsLongestFit parts capacity emitted ∧
      (OutputFormat.html capacity).serialize g out =
        (out ++ (String.join emitted).toUTF8, (String.join emitted).utf8ByteSize) ∧
      page? (String.join emitted) = some page ∧ page.color = none ∧ page.rows <+: g.rows ∧
      page.row <+: g.rows.getD page.rows.length [] ∧
      (∀ more, ∃ rest, ((OutputFormat.html (capacity + more)).serialize g out).1 =
        ((OutputFormat.html capacity).serialize g out).1 ++ rest) ∧
      (((OutputFormat.html capacity).serialize g out).1 = out ++ (markup g).toUTF8 ↔
        (markup g).utf8ByteSize ≤ capacity) := by
  obtain ⟨emitted, hfit, -⟩ := emit_isLongestFit (fragments g) capacity
  obtain ⟨k, runs, hk, hruns, hemitted⟩ := isPrefix_fragments hfit.isPrefix
  refine ⟨g.rows.map Run.ofRow, fragments g, emitted, ⟨g.rows.take k, runs.flatMap Run.cells, none⟩,
    ?_, ?_, ?_, rfl, hfit, serialize_of_isLongestFit hfit out, ?_, rfl, List.take_prefix k g.rows,
    ?_, ?_, ?_⟩
  · rw [List.map_map]
    exact List.map_id'' Run.flatMap_cells_ofRow g.rows
  · intro row hrow
    obtain ⟨cells, -, rfl⟩ := List.mem_map.1 hrow
    exact ⟨Run.glyphs_ne_nil cells, Run.isChain_ofRow cells⟩
  · rw [List.flatMap_map, fragments]
    simp only [← span_eq]
    rfl
  · rw [hemitted]
    exact page?_fragments (g.rows.take k) runs
  · rw [List.length_take_of_le hk]
    exact Run.isPrefix_flatMap_cells hruns
  · intro more
    obtain ⟨emitted', hfit', -⟩ := emit_isLongestFit (fragments g) (capacity + more)
    obtain ⟨rest, rfl⟩ := hfit.isPrefix_of_le hfit' (Nat.le_add_right capacity more)
    refine ⟨(String.join rest).toUTF8, ?_⟩
    rw [serialize_of_isLongestFit hfit', serialize_of_isLongestFit hfit, String.join_append]
    simp [ByteArray.append_assoc]
  · rw [serialize_of_isLongestFit hfit, markup, ← hfit.join_eq_iff]
    refine ⟨fun h => String.toByteArray_inj.1 (by simpa using h), fun h => ?_⟩
    rw [h]

end Html

end GlyphMosaic
