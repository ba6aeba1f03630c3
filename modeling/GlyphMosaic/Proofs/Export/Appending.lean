import GlyphMosaic.Export.Format
import GlyphMosaic.Proofs.Export.Rows

/-!
# What is written behind the output

Every format writes piece by piece behind what is there, and what it writes depends on the grid
alone.

* `Cell.ofBytes_flatMap_bytes` : cells are read back from their bytes, as far as these tell them.
* `PlainText.appendGrid_eq`, `Ansi.appendGrid_eq`, `Html.writeFragments_eq` : the pieces that are
  written one by one are the text of the grid.
* `OutputFormat.content` : the bytes of a grid; `OutputFormat.serialize_eq` says that they are
  written, and counted.
* `OutputFormat.serialize_appends` : **output is appended, counted and of the grid alone**; cells
  are read back from their bytes, and all else is valid text.
-/

namespace GlyphMosaic

/-! ### Bytes of cells -/

namespace Cell

/-- What the bytes of a cell tell: its colour, and its glyph if that is ASCII. -/
theorem ascii_eq (c : Cell) :
    c.ascii = ⟨if c.glyph.toNat < 128 then c.glyph else '?', c.color⟩ := by
  unfold ascii
  split <;> rfl

theorem length_bytes (c : Cell) : c.bytes.length = byteCount := rfl

theorem ofNat_glyphByte (c : Char) :
    Char.ofNat (if c.toNat < 128 then c.toNat.toUInt8 else 63 : UInt8).toNat =
      if c.toNat < 128 then c else '?' := by
  by_cases h : c.toNat < 128
  · rw [if_pos h, if_pos h, UInt8.toNat_ofNat_of_lt' (by simp [UInt8.size]; omega),
      Char.ofNat_toNat]
  · rw [if_neg h, if_neg h]
    rfl

theorem ofBytes_bytes_append (c : Cell) (rest : List UInt8) :
    ofBytes (c.bytes ++ rest) = c.ascii :: ofBytes rest := by
  rw [ascii_eq, ← ofNat_glyphByte]
  rfl

theorem ofBytes_flatMap_bytes (cells : List Cell) :
    ofBytes (cells.flatMap bytes) = cells.map ascii := by
  induction cells with
  | nil => rfl
  | cons c cells ih => rw [List.flatMap_cons, ofBytes_bytes_append, ih, List.map_cons]

theorem length_flatMap_bytes (cells : List Cell) :
    (cells.flatMap bytes).length = byteCount * cells.length := by
  induction cells with
  | nil => rfl
  | cons c cells ih =>
    rw [List.flatMap_cons, List.length_append, ih, length_bytes, List.length_cons, Nat.mul_succ,
      Nat.add_comm]

end Cell

namespace OutputFormat

theorem foldl_push (bytes : List UInt8) (out : ByteArray) :
    bytes.foldl ByteArray.push out = out ++ bytes.toByteArray := by
  induction bytes generalizing out with
  | nil => rw [List.toByteArray_nil, ByteArray.append_empty, List.foldl_nil]
  | cons b bytes ih =>
    rw [List.foldl_cons, ih, ← ByteArray.append_toByteArray_singleton, ByteArray.append_assoc,
      ← List.toByteArray_append, List.singleton_append]

theorem appendCellBytes_eq (g : Grid) (out : ByteArray) :
    appendCellBytes g out = out ++ (g.cells.toList.flatMap Cell.bytes).toByteArray := by
  have hcells (cells : List Cell) :
      cells.foldl (fun out c => c.bytes.foldl ByteArray.push out) out =
      out ++ (cells.flatMap Cell.bytes).toByteArray := by
    induction cells generalizing out with
    | nil => rw [List.flatMap_nil, List.toByteArray_nil, ByteArray.append_empty, List.foldl_nil]
    | cons c cells ih =>
      rw [List.foldl_cons, ih, foldl_push, ByteArray.append_assoc, ← List.toByteArray_append,
        List.flatMap_cons]
  rw [appendCellBytes, ← Array.foldl_toList, hcells]

end OutputFormat

/-! ### Texts written piece by piece -/

section Pieces

variable {α : Type} {append : α → String → α} {write : String → α}

theorem PlainText.appendGrid_eq (h : ∀ s t, append (write s) t = write (s ++ t)) (s : String)
    (g : Grid) : appendGrid append (write s) g = write (appendGrid (· ++ ·) s g) := by
  have hglyphs (s : String) (row : List Cell) :
      row.foldl (fun out c => append out (.singleton c.glyph)) (write s) =
        write (row.foldl (fun s c => s ++ .singleton c.glyph) s) :=
    List.foldl_hom write fun s c => h s _
  have hrow (s : String) (row : List Cell) :
      appendRow append (write s) row = write (appendRow (· ++ ·) s row) := by
    rw [appendRow, hglyphs, h, appendRow]
  exact List.foldl_hom write hrow

theorem Ansi.appendGrid_eq (h : ∀ s t, append (write s) t = write (s ++ t)) (s : String)
    (g : Grid) : appendGrid append (write s) g = write (appendGrid (· ++ ·) s g) := by
  have hcell (state : String × Option Rgb) (c : Cell) :
      appendCell append (state.map write id) c = (appendCell (· ++ ·) state c).map write id := by
    obtain ⟨s, current⟩ := state
    simp only [appendCell, Prod.map, id]
    split <;> simp only [h]
  -- the current colour goes along with the text
  have hcells (state : String × Option Rgb) (row : List Cell) :
      row.foldl (appendCell append) (state.map write id) =
        (row.foldl (appendCell (· ++ ·)) state).map write id :=
    List.foldl_hom (Prod.map write id) hcell
  have hrow (s : String) (row : List Cell) :
      appendRow append (write s) row = write (appendRow (· ++ ·) s row) := by
    have hstart : row.foldl (appendCell append) (write s, none) =
        (row.foldl (appendCell (· ++ ·)) (s, none)).map write id := hcells (s, none) row
    rw [appendRow, hstart, Prod.map_fst, h, h, appendRow]
  exact List.foldl_hom write hrow

theorem toUTF8_append (s t : String) : (s ++ t).toUTF8 = s.toUTF8 ++ t.toUTF8 :=
  String.toByteArray_append

/-- Fragments are written as long as they fit what is left of the capacity. -/
theorem Html.writeFragments_eq {capacity written : Nat} (hle : written ≤ capacity)
    (fragments : List String) (out : ByteArray) (s : String) :
    writeFragments capacity fragments written (out ++ s.toUTF8) =
      out ++ (emit fragments (capacity - written) s).toUTF8 := by
  induction fragments generalizing written s with
  | nil => rfl
  | cons fragment rest ih =>
    rw [writeFragments, emit]
    by_cases hfits : written + fragment.utf8ByteSize ≤ capacity
    · rw [if_neg (Nat.not_lt.2 hfits), if_pos (by omega), ByteArray.append_assoc, ← toUTF8_append,
        ih hfits, Nat.sub_add_eq]
    · rw [if_pos (Nat.lt_of_not_le hfits), if_neg (by omega)]

end Pieces

/-! ### Output -/

namespace OutputFormat

/-- The bytes of a grid in a format. -/
def content (g : Grid) : OutputFormat → ByteArray
  | .cells => (g.cells.toList.flatMap Cell.bytes).toByteArray
  | .text => (PlainText.render g).toUTF8
  | .html capacity => (Html.render capacity g).toUTF8
  | .ansi => (Ansi.render g).toUTF8

variable {f : OutputFormat}

theorem size_content_cells (g : Grid) :
    (content g .cells).size = g.cells.size * Cell.byteCount := by
  rw [content, List.size_toByteArray, Cell.length_flatMap_bytes, Array.length_toList, Nat.mul_comm]

theorem appendText_append (out : ByteArray) (s t : String) :
    appendText (appendText out s) t = appendText out (s ++ t) := by
  simp only [appendText, ByteArray.append_assoc, toUTF8_append]

theorem appendText_empty (out : ByteArray) : appendText out "" = out := ByteArray.append_empty

theorem counted_append (out bytes : ByteArray) :
    serialize.counted out (out ++ bytes) = (out ++ bytes, bytes.size) := by
  rw [serialize.counted, ByteArray.size_append, Nat.add_sub_cancel_left]

/-- **What is written is the content, and its bytes are counted.** -/
theorem serialize_eq (f : OutputFormat) (g : Grid) (out : ByteArray) :
    f.serialize g out = (out ++ f.content g, (f.content g).size) := by
  cases f with
  | cells =>
    rw [serialize, appendCellBytes_eq, size_content_cells]
    rfl
  | text =>
    have hwritten := PlainText.appendGrid_eq (appendText_append out) "" g
    rw [appendText_empty] at hwritten
    rw [serialize, hwritten]
    exact counted_append out _
  | html capacity =>
    have hwritten := Html.writeFragments_eq (Nat.zero_le capacity) (Html.fragments g) out ""
    have hempty : out ++ "".toUTF8 = out := appendText_empty out
    rw [hempty] at hwritten
    rw [serialize, hwritten]
    exact counted_append out _
  | ansi =>
    have hwritten := Ansi.appendGrid_eq (appendText_append out) "" g
    rw [appendText_empty] at hwritten
    rw [serialize, hwritten]
    exact counted_append out _

theorem isValidUTF8_content (hf : f ≠ .cells) (g : Grid) : (f.content g).IsValidUTF8 := by
  cases f with
  | cells => exact absurd rfl hf
  | text => exact (PlainText.render g).isValidUTF8
  | html capacity => exact (Html.render capacity g).isValidUTF8
  | ansi => exact (Ansi.render g).isValidUTF8

/-- **Output is appended, counted and of the grid alone.**  Every format writes behind the output
the bytes that it writes for the same grid into nothing, and tells how many they are.  The bytes of
cells are four for each cell, and from them all cells are read back row by row, each with its colour
and its glyph, or a question mark where that is not ASCII.  All other formats write valid text. -/
theorem serialize_appends (f : OutputFormat) (g : Grid) (out : ByteArray) :
    ∃ bytes : ByteArray, f.serialize g .empty = (bytes, bytes.size) ∧
      f.serialize g out = (out ++ bytes, bytes.size) ∧
      (f = .cells → bytes.size = 4 * g.cells.size ∧ Cell.ofBytes bytes.data.toList =
        g.rows.flatten.map fun c => ⟨if c.glyph.toNat < 128 then c.glyph else '?', c.color⟩) ∧
      (f ≠ .cells → bytes.IsValidUTF8) := by
  refine ⟨f.content g, ?_, serialize_eq f g out, ?_, fun hf => isValidUTF8_content hf g⟩
  · rw [serialize_eq, ByteArray.empty_append]
  · rintro rfl
    refine ⟨(size_content_cells g).trans (Nat.mul_comm _ _), ?_⟩
    rw [content, List.data_toByteArray, Cell.ofBytes_flatMap_bytes, ← Grid.flatten_rows,
      funext Cell.ascii_eq]

end OutputFormat

end GlyphMosaic
