import GlyphMosaic.Export.Html.Reader
import GlyphMosaic.Proofs.Export.Appending
import Mathlib.Data.List.Chain

/-!
# The markup of a grid

What the markup of a grid is made of, where it has all the room it needs.

* `Run.flatMap_cells_ofRow`, `Run.glyphs_ne_nil`, `Run.isChain_ofRow` : the runs of a row are its
  cells, none of them is empty and neighbours have different colours.
* `Html.span_eq` : a span is an opening tag, the escaped glyphs and a closing tag.
* `Html.IsEscaped` : a text has nothing that markup uses but escapes; `Html.isEscaped_text` says
  that the text of a span is such a one.
* `Html.serialize_of_le` : with enough room the output is the whole markup.
-/

namespace GlyphMosaic

/-! ### Runs -/

namespace Run

/-- The cells of a run. -/
def cells (run : Run) : List Cell := run.glyphs.map fun c => ⟨c, run.color⟩

theorem ofRow_cons (c : Cell) (row : List Cell) : ofRow (c :: row) = cons c (ofRow row) := rfl

theorem cons_cases (c : Cell) (runs : List Run) :
    (∃ glyphs rest, runs = ⟨c.color, glyphs⟩ :: rest ∧
      cons c runs = ⟨c.color, c.glyph :: glyphs⟩ :: rest) ∨
    ((∀ run ∈ runs.head?, c.color ≠ run.color) ∧ cons c runs = ⟨c.color, [c.glyph]⟩ :: runs) := by
  cases runs with
  | nil => exact .inr ⟨by simp, rfl⟩
  | cons run rest =>
    by_cases h : c.color = run.color
    · exact .inl ⟨run.glyphs, rest, by rw [h], by rw [cons, if_pos h, h]⟩
    · exact .inr ⟨by simpa using h, if_neg h⟩

theorem flatMap_cells_ofRow (row : List Cell) : (ofRow row).flatMap cells = row := by
  induction row with
  | nil => rfl
  | cons c row ih =>
    rw [ofRow_cons]
    rcases cons_cases c (ofRow row) with ⟨glyphs, rest, hruns, h⟩ | ⟨-, h⟩
    · rw [hruns] at ih
      rw [h, ← ih]
      rfl
    · rw [h, List.flatMap_cons, ih]
      rfl

theorem glyphs_ne_nil (row : List Cell) : ∀ run ∈ ofRow row, run.glyphs ≠ [] := by
  induction row with
  | nil => simp [ofRow]
  | cons c row ih =>
    rw [ofRow_cons]
    rcases cons_cases c (ofRow row) with ⟨glyphs, rest, hruns, h⟩ | ⟨-, h⟩
    · rw [h]
      have hrest := fun run hrun => ih run (hruns ▸ List.mem_cons_of_mem _ hrun)
      exact List.forall_mem_cons.2 ⟨List.cons_ne_nil _ _, hrest⟩
    · rw [h]
      exact List.forall_mem_cons.2 ⟨List.cons_ne_nil _ _, ih⟩

theorem isChain_ofRow (row : List Cell) :
    (ofRow row).IsChain fun run next => run.color ≠ next.color := by
  induction row with
  | nil => exact List.IsChain.nil
  | cons c row ih =>
    rw [ofRow_cons]
    rcases cons_cases c (ofRow row) with ⟨glyphs, rest, hruns, h⟩ | ⟨hne, h⟩
    · -- the first run gets longer, its colour is what it was
      rw [hruns, List.isChain_cons] at ih
      rw [h, List.isChain_cons]
      exact ih
    · rw [h, List.isChain_cons]
      exact ⟨hne, ih⟩

end Run

namespace Html

/-! ### Text -/

/-- Glyphs as text. -/
def text (glyphs : List Char) : String := String.join (glyphs.map escape)

theorem text_cons (c : Char) (glyphs : List Char) : text (c :: glyphs) = escape c ++ text glyphs :=
  String.join_cons

theorem span_eq (run : Run) : span run = openingTag run.color ++ text run.glyphs ++ "</span>" := by
  have hfold (s : String) (glyphs : List Char) :
      glyphs.foldl (fun s c => s ++ escape c) s = s ++ text glyphs := by
    induction glyphs generalizing s with
    | nil => exact (String.append_empty).symm
    | cons c glyphs ih => rw [List.foldl_cons, ih, text_cons, String.append_assoc]
  rw [span, hfold]

/-- A glyph is escaped where markup uses it, and stands for itself elsewhere. -/
theorem escape_cases (c : Char) : (escape c, c) ∈ escapes ∨
    (escape c = String.singleton c ∧ c ∉ escapes.map Prod.snd) := by
  by_cases h : c ∈ escapes.map Prod.snd
  · have hescapes : ∀ c ∈ escapes.map Prod.snd, (escape c, c) ∈ escapes := by simp [escapes, escape]
    exact .inl (hescapes c h)
  · refine .inr ⟨?_, h⟩
    simp only [escapes, List.map_cons, List.map_nil, List.mem_cons, List.not_mem_nil,
      or_false, not_or] at h
    simp [escape, h]

/-- A text in which markup cannot see anything but escapes. -/
structure IsEscaped (text : List Char) : Prop where
  /-- No bracket and no quotation mark is there as such. -/
  raw : ∀ c ∈ text, c ∉ ['<', '>', '\"', '\'']
  /-- An ampersand starts an escape. -/
  ampersand : ∀ before behind, text = before ++ '&' :: behind →
    ∃ e ∈ escapes, e.1.toList <+: '&' :: behind

theorem isEscaped_nil : IsEscaped [] where
  raw := by simp
  ampersand := by simp

theorem raw_escape (c : Char) : ∀ d ∈ (escape c).toList, d ∉ ['<', '>', '\"', '\''] := by
  have hescapes : ∀ e ∈ escapes, ∀ d ∈ e.1.toList, d ∉ ['<', '>', '\"', '\''] := by simp [escapes]
  rcases escape_cases c with h | ⟨h, hc⟩
  · exact hescapes _ h
  · intro d hd
    rw [h, String.toList_singleton, List.mem_singleton] at hd
    rw [hd]
    simp_all [escapes]

/-- Where an escaped glyph has an ampersand, it is an escape that starts there. -/
theorem ampersand_escape {c : Char} {before behind : List Char}
    (h : (escape c).toList = before ++ '&' :: behind) :
    ∃ e ∈ escapes, e.1.toList = '&' :: behind := by
  have hescapes : ∀ e ∈ escapes, '&' ∉ e.1.toList.tail := by decide
  rcases escape_cases c with he | ⟨hc, hnot⟩
  · cases before with
    | nil => exact ⟨_, he, h⟩
    | cons b before =>
      refine absurd ?_ (hescapes _ he)
      simp [h]
  · have hmem : '&' ∈ (escape c).toList := by simp [h]
    rw [hc, String.toList_singleton, List.mem_singleton] at hmem
    exact absurd (hmem ▸ hnot) (by decide)

theorem IsEscaped.append {rest : List Char} (h : IsEscaped rest) (c : Char) :
    IsEscaped ((escape c).toList ++ rest) where
  raw := fun d hd => (List.mem_append.1 hd).elim (raw_escape c d) (h.raw d)
  ampersand := by
    intro before behind heq
    rcases List.append_eq_append_iff.1 heq with ⟨as, rfl, hrest⟩ | ⟨bs, hescape, hbehind⟩
    · -- it is behind the glyph
      exact h.ampersand as behind hrest
    · cases bs with
      | nil => exact h.ampersand [] behind hbehind.symm
      | cons b bs =>
        -- it is within the glyph, which is then an escape
        obtain ⟨rfl, rfl⟩ := List.cons.inj hbehind
        obtain ⟨e, he, htext⟩ := ampersand_escape hescape
        exact ⟨e, he, rest, by rw [htext]; rfl⟩

theorem isEscaped_text (glyphs : List Char) : IsEscaped (text glyphs).toList := by
  induction glyphs with
  | nil => exact isEscaped_nil
  | cons c glyphs ih =>
    rw [text_cons, String.toList_append]
    exact ih.append c

/-! ### Output -/

/-- The whole markup of a grid. -/
def markup (g : Grid) : String := String.join (fragments g)

theorem join_flatMap {α : Type} (f : α → List String) (xs : List α) :
    String.join (xs.flatMap f) = String.join (xs.map fun x => String.join (f x)) := by
  induction xs with
  | nil => rfl
  | cons x xs ih => rw [List.flatMap_cons, String.join_append, ih, List.map_cons, String.join_cons]

theorem markup_eq_join (g : Grid) : markup g = String.join (g.rows.map fun row =>
    String.join ((Run.ofRow row).map fun run =>
      openingTag run.color ++ text run.glyphs ++ "</span>") ++ "<br>") := by
  rw [markup, fragments, join_flatMap]
  congr 2
  funext row
  rw [rowFragments, String.join_append, funext span_eq, String.join_cons, String.join_nil,
    String.append_empty, lineBreak]

theorem emit_of_le {fragments : List String} {room : Nat} {out : String}
    (h : (String.join fragments).utf8ByteSize ≤ room) :
    emit fragments room out = out ++ String.join fragments := by
  induction fragments generalizing room out with
  | nil => exact (String.append_empty).symm
  | cons fragment rest ih =>
    rw [String.join_cons, String.utf8ByteSize_append] at h
    rw [emit, if_pos (by omega), ih (by omega), String.join_cons, String.append_assoc]

/-- With enough room the output is the whole markup. -/
theorem serialize_of_le {g : Grid} {capacity : Nat} (h : (markup g).utf8ByteSize ≤ capacity)
    (out : ByteArray) : (OutputFormat.html capacity).serialize g out =
      (out ++ (markup g).toUTF8, (markup g).utf8ByteSize) := by
  have hrender : render capacity g = markup g := by
    rw [render, emit_of_le h, String.empty_append]
    rfl
  rw [OutputFormat.serialize_eq, OutputFormat.content, hrender]
  rfl

end Html

end GlyphMosaic
