import GlyphMosaic.Proofs.Export.Truncation
import Mathlib.Algebra.GroupWithZero.Nat
import Mathlib.Algebra.Order.BigOperators.Group.List
import Mathlib.Algebra.Order.Group.Nat
import Mathlib.Data.List.FinRange

/-!
# Room for the markup of a grid

How many bytes markup takes, and for which glyphs the default capacity is enough.

* `Html.cellSize` : the bytes of a cell that is a run of its own.
* `Html.size_markup_le` : the cells of a grid do not take more than that, and a break takes four
  bytes.
* `Html.size_markup_of_isChain` : they take just as much where neighbours have different colours.
* `Grid.colorful` : a grid of the default size in which no two cells have one colour.
* `Html.defaultCapacity_suffices_iff` : **the default capacity is enough for a palette exactly if no
  glyph takes more than three bytes**, so that none of them is escaped; 50 bytes a cell and four a
  row are enough for all.
* `Html.defaultCapacity_truncates` : a grid of quotation marks is cut.
-/

namespace GlyphMosaic

/-! ### Pieces -/

theorem size_levelText_le (v : UInt8) : (levelText v).utf8ByteSize ≤ 3 := by
  have hall : ∀ n < 256, (Nat.repr n).utf8ByteSize ≤ 3 := by decide +kernel
  exact hall _ v.toNat_lt

theorem size_levelText_of_le {v : UInt8} (h : 100 ≤ v.toNat) : (levelText v).utf8ByteSize = 3 := by
  have hall : ∀ n < 156, (Nat.repr (100 + n)).utf8ByteSize = 3 := by decide +kernel
  have hlt := v.toNat_lt
  have hlevel := hall (v.toNat - 100) (by omega)
  rwa [Nat.add_sub_cancel' h] at hlevel

namespace Html

theorem size_openingTag (c : Rgb) : (openingTag c).utf8ByteSize = 28 + (levelText c.r).utf8ByteSize
    + (levelText c.g).utf8ByteSize + (levelText c.b).utf8ByteSize := by
  have hopen : "<span style=\"color:rgb(".utf8ByteSize = 23 := rfl
  have hcomma : ",".utf8ByteSize = 1 := rfl
  have hclose : ")\">".utf8ByteSize = 3 := rfl
  -- the levels as any texts, which nothing tries to compute
  have htexts (r g b : String) :
      ("<span style=\"color:rgb(" ++ r ++ "," ++ g ++ "," ++ b ++ ")\">").utf8ByteSize
      = 28 + r.utf8ByteSize + g.utf8ByteSize + b.utf8ByteSize := by
    simp only [String.utf8ByteSize_append, hopen, hcomma, hclose]
    omega
  exact htexts _ _ _

theorem size_escape_le (c : Char) : (escape c).utf8ByteSize ≤ 6 := by
  have hescapes : ∀ e ∈ escapes, e.1.utf8ByteSize ≤ 6 := by decide
  rcases escape_cases c with h | ⟨h, -⟩
  · exact hescapes _ h
  · have := c.utf8Size_le_four
    rw [h, String.utf8ByteSize_singleton]
    omega

/-- A glyph takes at most three bytes if it is not escaped and belongs to the first `2 ^ 16`
characters. -/
theorem size_escape_le_three_iff {c : Char} :
    (escape c).utf8ByteSize ≤ 3 ↔ c ∉ ['&', '<', '>', '\"', '\''] ∧ c.toNat < 2 ^ 16 := by
  have hescapes : ∀ e ∈ escapes, ¬e.1.utf8ByteSize ≤ 3 := by decide
  change _ ↔ c ∉ escapes.map Prod.snd ∧ _
  rcases escape_cases c with h | ⟨h, hnot⟩
  · have hmem : c ∈ escapes.map Prod.snd := List.mem_map_of_mem h
    simp only [hescapes _ h, hmem, not_true, false_and]
  · have hsize := c.utf8Size_le_four
    have hfour := c.utf8Size_eq_four_iff
    rw [UInt32.lt_iff_toNat_lt] at hfour
    change c.utf8Size = 4 ↔ 65535 < c.toNat at hfour
    rw [h, String.utf8ByteSize_singleton]
    simp only [hnot, not_false_eq_true, true_and]
    omega

/-! ### Cells -/

/-- The bytes of a cell that is a run of its own. -/
def cellSize (c : Cell) : Nat :=
  (openingTag c.color).utf8ByteSize + (escape c.glyph).utf8ByteSize + 7

theorem cellSize_le (c : Cell) : cellSize c ≤ 44 + (escape c.glyph).utf8ByteSize := by
  have hr := size_levelText_le c.color.r
  have hg := size_levelText_le c.color.g
  have hb := size_levelText_le c.color.b
  rw [cellSize, size_openingTag]
  omega

theorem cellSize_of_le {c : Cell} (hr : 100 ≤ c.color.r.toNat) (hg : 100 ≤ c.color.g.toNat)
    (hb : 100 ≤ c.color.b.toNat) : cellSize c = 44 + (escape c.glyph).utf8ByteSize := by
  rw [cellSize, size_openingTag, size_levelText_of_le hr, size_levelText_of_le hg,
    size_levelText_of_le hb]
  omega

theorem size_span (run : Run) : (span run).utf8ByteSize =
    (openingTag run.color).utf8ByteSize + (text run.glyphs).utf8ByteSize + 7 := by
  have hclosing : "</span>".utf8ByteSize = 7 := by decide
  rw [span_eq, String.utf8ByteSize_append, String.utf8ByteSize_append, hclosing]

theorem size_text_cons (c : Char) (glyphs : List Char) :
    (text (c :: glyphs)).utf8ByteSize = (escape c).utf8ByteSize + (text glyphs).utf8ByteSize := by
  rw [text_cons, String.utf8ByteSize_append]

/-- The bytes of the spans of some runs. -/
def spansSize (runs : List Run) : Nat := (String.join (runs.map span)).utf8ByteSize

theorem spansSize_cons (run : Run) (runs : List Run) :
    spansSize (run :: runs) = (span run).utf8ByteSize + spansSize runs := by
  rw [spansSize, List.map_cons, String.join_cons, String.utf8ByteSize_append, spansSize]

theorem size_span_single (c : Cell) : (span ⟨c.color, [c.glyph]⟩).utf8ByteSize = cellSize c := by
  rw [size_span, size_text_cons]
  rfl

theorem spansSize_runCons_le (c : Cell) (runs : List Run) :
    spansSize (Run.cons c runs) ≤ cellSize c + spansSize runs := by
  rcases Run.cons_cases c runs with ⟨glyphs, rest, rfl, h⟩ | ⟨-, h⟩
  · rw [h, spansSize_cons, spansSize_cons, size_span, size_span, cellSize]
    dsimp only
    rw [size_text_cons]
    omega
  · rw [h, spansSize_cons, size_span_single]

/-! ### Rows -/

theorem size_rowFragments (row : List Cell) :
    (String.join (rowFragments row)).utf8ByteSize = spansSize (Run.ofRow row) + 4 := by
  have hbreak : lineBreak.utf8ByteSize = 4 := by decide
  rw [rowFragments, String.join_append, String.utf8ByteSize_append, String.join_cons,
    String.join_nil, String.append_empty, hbreak, spansSize]

theorem spansSize_ofRow_le (row : List Cell) :
    spansSize (Run.ofRow row) ≤ (row.map cellSize).sum := by
  induction row with
  | nil => exact Nat.le_refl 0
  | cons c row ih =>
    have hcons := spansSize_runCons_le c (Run.ofRow row)
    rw [Run.ofRow_cons, List.map_cons, List.sum_cons]
    omega

/-- Where neighbours have different colours, every cell is a run of its own. -/
theorem ofRow_of_isChain {row : List Cell} (h : row.IsChain fun c next => c.color ≠ next.color) :
    Run.ofRow row = row.map fun c => ⟨c.color, [c.glyph]⟩ := by
  induction row with
  | nil => rfl
  | cons c row ih =>
    rw [List.isChain_cons] at h
    rw [Run.ofRow_cons, ih h.2]
    cases row with
    | nil => rfl
    | cons next row => exact if_neg (h.1 next rfl)

theorem spansSize_ofRow_of_isChain {row : List Cell}
    (h : row.IsChain fun c next => c.color ≠ next.color) :
    spansSize (Run.ofRow row) = (row.map cellSize).sum := by
  rw [ofRow_of_isChain h]
  clear h
  induction row with
  | nil => rfl
  | cons c row ih =>
    rw [List.map_cons, spansSize_cons, size_span_single, ih, List.map_cons, List.sum_cons]

/-! ### Grids -/

theorem size_join_rowFragments (rows : List (List Cell)) :
    (String.join (rows.flatMap rowFragments)).utf8ByteSize =
      (rows.map fun row => spansSize (Run.ofRow row)).sum + 4 * rows.length := by
  induction rows with
  | nil => rfl
  | cons row rows ih =>
    rw [List.flatMap_cons, String.join_append, String.utf8ByteSize_append, ih, size_rowFragments,
      List.map_cons, List.sum_cons, List.length_cons]
    omega

theorem sum_map_cellSize (g : Grid) : (g.cells.toList.map cellSize).sum =
    (g.rows.map fun row => (row.map cellSize).sum).sum := by
  rw [← Grid.flatten_rows, List.map_flatten, List.sum_flatten, List.map_map]
  rfl

/-- The cells of a grid do not take more than runs of their own, and a break takes four bytes. -/
theorem size_markup_le (g : Grid) :
    (markup g).utf8ByteSize ≤ (g.cells.toList.map cellSize).sum + 4 * g.rows.length := by
  have hrows := List.sum_le_sum (l := g.rows) fun row _ => spansSize_ofRow_le row
  rw [markup, fragments, size_join_rowFragments, sum_map_cellSize]
  omega

theorem size_markup_of_isChain {g : Grid}
    (h : ∀ row ∈ g.rows, row.IsChain fun c next => c.color ≠ next.color) :
    (markup g).utf8ByteSize = (g.cells.toList.map cellSize).sum + 4 * g.rows.length := by
  have hrows := List.map_congr_left fun row hrow => spansSize_ofRow_of_isChain (h row hrow)
  rw [markup, fragments, size_join_rowFragments, sum_map_cellSize, hrows]

theorem isChain_of_nodup {g : Grid} (h : (g.cells.toList.map Cell.color).Nodup) :
    ∀ row ∈ g.rows, row.IsChain fun c next => c.color ≠ next.color := by
  intro row hrow
  have hsub : row.Sublist g.cells.toList := Grid.flatten_rows g ▸ List.sublist_flatten_of_mem hrow
  have hnodup := h.sublist (hsub.map Cell.color)
  exact (List.pairwise_map.1 hnodup).isChain

/-- The output is the whole markup exactly if that fits the capacity. -/
theorem serialize_eq_markup_iff (g : Grid) (capacity : Nat) (out : ByteArray) :
    (OutputFormat.html capacity).serialize g out =
      (out ++ (markup g).toUTF8, (markup g).utf8ByteSize) ↔
      (markup g).utf8ByteSize ≤ capacity := by
  refine ⟨fun h => ?_, fun h => serialize_of_le h out⟩
  obtain ⟨emitted, hfit, -⟩ := emit_isLongestFit (fragments g) capacity
  rw [serialize_of_isLongestFit hfit] at h
  have hsize : (String.join emitted).utf8ByteSize = (markup g).utf8ByteSize := congrArg Prod.snd h
  rw [← hsize]
  exact hfit.fits

end Html

/-! ### Grids of the default size -/

/-- A full grid of the default size. -/
structure Grid.IsDefaultSize (g : Grid) : Prop where
  width : g.width = 240
  height : g.height = 80
  isFull : g.IsFull

/-- Colours with levels of three digits, all different. -/
def Rgb.nth (i : Nat) : Rgb := ⟨.ofNat (100 + i / 150), .ofNat (100 + i % 150), 255⟩

theorem Rgb.toNat_nth {i : Nat} (h : i < 240 * 80) :
    (nth i).r.toNat = 100 + i / 150 ∧ (nth i).g.toNat = 100 + i % 150 := by
  have hr : 100 + i / 150 < UInt8.size := by
    rw [UInt8.size]
    omega
  have hg : 100 + i % 150 < UInt8.size := by
    rw [UInt8.size]
    omega
  exact ⟨UInt8.toNat_ofNat_of_lt hr, UInt8.toNat_ofNat_of_lt hg⟩

/-- A grid of the default size with one glyph and no colour twice. -/
def Grid.colorful (glyph : Char) : Grid :=
  ⟨240, 80, .ofFn fun i : Fin (240 * 80) => ⟨glyph, .nth i⟩⟩

namespace Grid

variable {g : Grid}

theorem IsDefaultSize.length_cells (hg : g.IsDefaultSize) : g.cells.toList.length = 240 * 80 := by
  have hsize : g.cells.size = area g.width g.height := hg.isFull
  rw [Array.length_toList, hsize, hg.width, hg.height]
  rfl

theorem IsDefaultSize.length_rows (hg : g.IsDefaultSize) : g.rows.length = 80 := by
  have hwidth : 0 < g.width.toNat := by rw [hg.width]; decide
  rw [(hg.isFull.isCutInto_rows hwidth).length, hg.height]
  rfl

theorem isDefaultSize_colorful (glyph : Char) : (colorful glyph).IsDefaultSize where
  width := rfl
  height := rfl
  isFull := by
    have harea : area 240 80 = 240 * 80 := rfl
    change (colorful glyph).cells.size = area 240 80
    rw [harea, colorful, Array.size_ofFn]

theorem toList_cells_colorful (glyph : Char) :
    (colorful glyph).cells.toList = List.ofFn fun i : Fin (240 * 80) => ⟨glyph, .nth i⟩ :=
  Array.toList_ofFn

theorem glyph_of_mem_colorful {glyph : Char} {c : Cell} (h : c ∈ (colorful glyph).cells) :
    c.glyph = glyph := by
  rw [← Array.mem_toList_iff, toList_cells_colorful, List.mem_ofFn] at h
  obtain ⟨i, rfl⟩ := h
  rfl

theorem nodup_colorful (glyph : Char) : ((colorful glyph).cells.toList.map Cell.color).Nodup := by
  rw [toList_cells_colorful, List.map_ofFn, List.nodup_ofFn]
  intro i j h
  have hcolor : Rgb.nth i = Rgb.nth j := h
  obtain ⟨hr, hg⟩ := Rgb.toNat_nth i.isLt
  obtain ⟨hr', hg'⟩ := Rgb.toNat_nth j.isLt
  rw [hcolor] at hr hg
  exact Fin.ext (by omega)

end Grid

namespace Html

theorem size_markup_le_of_forall {g : Grid} (hg : g.IsDefaultSize) {n : Nat}
    (h : ∀ c ∈ g.cells, (escape c.glyph).utf8ByteSize ≤ n) :
    (markup g).utf8ByteSize ≤ 240 * 80 * (44 + n) + 4 * 80 := by
  have hcells := List.sum_le_card_nsmul (g.cells.toList.map cellSize) (44 + n) (by
    intro size hsize
    obtain ⟨c, hc, rfl⟩ := List.mem_map.1 hsize
    have hbound := h c (Array.mem_toList_iff.1 hc)
    have := cellSize_le c
    omega)
  rw [List.length_map, hg.length_cells, Nat.nsmul_eq_mul] at hcells
  have hmarkup := size_markup_le g
  rw [hg.length_rows] at hmarkup
  omega

/-- With colours of three digits each, none of them twice, the markup takes all that it can. -/
theorem size_markup_colorful (glyph : Char) : (markup (Grid.colorful glyph)).utf8ByteSize =
    240 * 80 * (44 + (escape glyph).utf8ByteSize) + 4 * 80 := by
  have hcell (i : Fin (240 * 80)) :
      cellSize ⟨glyph, .nth i⟩ = 44 + (escape glyph).utf8ByteSize := by
    obtain ⟨hr, hg⟩ := Rgb.toNat_nth i.isLt
    have hb : 100 ≤ (255 : UInt8).toNat := by decide
    exact cellSize_of_le (hr ▸ Nat.le_add_right _ _) (hg ▸ Nat.le_add_right _ _) hb
  rw [size_markup_of_isChain (isChain_of_nodup (Grid.nodup_colorful glyph)),
    (Grid.isDefaultSize_colorful glyph).length_rows, Grid.toList_cells_colorful, List.map_ofFn]
  have hsizes : (cellSize ∘ fun i : Fin (240 * 80) => ⟨glyph, .nth i⟩) =
      fun _ => 44 + (escape glyph).utf8ByteSize := funext hcell
  rw [hsizes, List.ofFn_const, List.sum_replicate_nat]

/-- **The default capacity is enough for a palette exactly if no glyph takes more than three
bytes.**  Then all of the markup of every full grid of the default size is written, whatever its
colours are, and else a grid without two cells of one colour is cut.  The five characters that are
escaped take more, and so do those from `2 ^ 16` on.  Fifty bytes for each cell and four for each
row are enough for any glyphs. -/
theorem defaultCapacity_suffices_iff (p : Palette) :
    ((∀ g : Grid, g.IsDefaultSize → (∀ c ∈ g.cells, c.glyph ∈ p.glyphs) → ∀ out,
        (OutputFormat.html defaultCapacity).serialize g out
          = (out ++ (markup g).toUTF8, (markup g).utf8ByteSize)) ↔
      ∀ glyph ∈ p.glyphs, glyph ∉ ['&', '<', '>', '\"', '\''] ∧ glyph.toNat < 2 ^ 16) ∧
    ∀ g : Grid, g.IsDefaultSize → ∀ out,
      (OutputFormat.html (240 * 80 * 50 + 80 * 4)).serialize g out
      = (out ++ (markup g).toUTF8, (markup g).utf8ByteSize) := by
  simp only [← size_escape_le_three_iff, serialize_eq_markup_iff, defaultCapacity]
  refine ⟨⟨fun h glyph hglyph => ?_, fun h g hg hglyphs _ => ?_⟩, fun g hg _ => ?_⟩
  · have hcolorful := h (Grid.colorful glyph) (Grid.isDefaultSize_colorful glyph)
      (fun c hc => Grid.glyph_of_mem_colorful hc ▸ hglyph) .empty
    rw [size_markup_colorful] at hcolorful
    omega
  · have := size_markup_le_of_forall hg fun c hc => h c.glyph (hglyphs c hc)
    omega
  · have := size_markup_le_of_forall hg fun c _ => size_escape_le c.glyph
    omega

/-- A grid of quotation marks, of which one of the palettes has one, takes 960320 bytes and is
cut. -/
theorem defaultCapacity_truncates : Palette.accepts Palette.standard = true ∧
    (∀ c ∈ (Grid.colorful '\"').cells, c.glyph ∈ Palette.standard.toList) ∧
    (Grid.colorful '\"').IsDefaultSize ∧ ((Grid.colorful '\"').cells.toList.map Cell.color).Nodup ∧
    (markup (Grid.colorful '\"')).utf8ByteSize = 960320 ∧ defaultCapacity = 921600 ∧
    (OutputFormat.html defaultCapacity).serialize (Grid.colorful '\"') .empty
      ≠ (.empty ++ (markup (Grid.colorful '\"')).toUTF8, 960320) := by
  have hsize : (markup (Grid.colorful '\"')).utf8ByteSize = 960320 := size_markup_colorful '\"'
  have hmem : '\"' ∈ Palette.standard.toList := by decide
  refine ⟨by decide, fun c hc => Grid.glyph_of_mem_colorful hc ▸ hmem,
    Grid.isDefaultSize_colorful _, Grid.nodup_colorful _, hsize, rfl, fun h => ?_⟩
  have hfits := (serialize_eq_markup_iff _ defaultCapacity .empty).1 (hsize ▸ h)
  rw [hsize] at hfits
  exact absurd hfits (by decide)

end Html

end GlyphMosaic
