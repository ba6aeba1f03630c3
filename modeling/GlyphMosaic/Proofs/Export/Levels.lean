import GlyphMosaic.Export.Level
import GlyphMosaic.Proofs.Number.Naturals
import GlyphMosaic.Proofs.Texts
import Mathlib.Data.List.Chain

/-!
# Levels and fixed texts read back

What is written in front of a text is read back from it, and the reader is then at the text.

* `behind?_append` : behind a fixed text is what follows it; `behind?_append_of_not_prefix` and
  `behind?_cons_of_ne` are about texts that start otherwise.
* `readLevel?_levelText` : a level is read back, provided that what follows it does not start with a
  digit.
* `readAll_texts` : a reader of single pieces reads pieces one behind the other.
-/

namespace GlyphMosaic

theorem behind?_append (fixed : String) (rest : List Char) :
    behind? fixed (fixed.toList ++ rest) = some rest :=
  List.isPrefixOf?_eq_some_iff_append_eq.2 rfl

/-- Behind a text that does not start with a fixed one, nothing is found, whatever follows it. -/
theorem behind?_append_of_not_prefix {fixed text : String} (rest : List Char)
    (hlength : fixed.toList.length ≤ text.toList.length) (h : ¬fixed.toList <+: text.toList) :
    behind? fixed (text.toList ++ rest) = none := by
  cases hbehind : behind? fixed (text.toList ++ rest) with
  | none => rfl
  | some found =>
    have hprefix : fixed.toList <+: text.toList ++ rest :=
      ⟨found, List.isPrefixOf?_eq_some_iff_append_eq.1 hbehind⟩
    exact absurd (List.prefix_of_prefix_length_le hprefix (List.prefix_append _ rest) hlength) h

theorem behind?_cons_of_ne {fixed : String} {c d : Char} (rest : List Char)
    (hd : fixed.toList.head? = some d) (h : d ≠ c) : behind? fixed (c :: rest) = none := by
  obtain ⟨tail, htail⟩ := List.head?_eq_some_iff.1 hd
  rw [behind?, htail]
  simp [List.isPrefixOf?, h]

theorem readLevel?_levelText (v : UInt8) {rest : List Char}
    (h : ∀ c ∈ rest.head?, c.isDigit = false) :
    readLevel? ((levelText v).toList ++ rest) = some (v, rest) := by
  obtain ⟨hdigits, hrest⟩ :
      ((levelText v).toList ++ rest).takeWhile Char.isDigit = (levelText v).toList ∧
      ((levelText v).toList ++ rest).dropWhile Char.isDigit = rest :=
    span_eq_iff.2 ⟨rfl, fun _ => Numeral.isDigit_of_mem_repr, h⟩
  have hne : (levelText v).toList.isEmpty = false :=
    List.isEmpty_eq_false_iff.2 (Numeral.repr_ne_nil v.toNat)
  have hvalue : (levelText v).toList.foldl (fun n c => 10 * n + (c.toNat - 48)) 0 = v.toNat :=
    Numeral.ofDigits_repr v.toNat
  have hlt : ¬256 ≤ v.toNat := Nat.not_le.2 v.toNat_lt
  rw [readLevel?, hdigits, hrest, hvalue]
  simp [hne, hlt]

/-! ### Pieces one behind the other -/

/-- A reader that reads each of some pieces in front of any text, and nothing from no text, reads
them one behind the other, given a unit of fuel for each character. -/
theorem readAll_texts {τ : Type} {first? : List Char → Option (τ × List Char)}
    {all? : Nat → List Char → Option (List τ)} (hnil : ∀ fuel, all? fuel [] = some [])
    (hcons : ∀ fuel cs, cs ≠ [] → all? (fuel + 1) cs = do
      let (piece, rest) ← first? cs
      let pieces ← all? fuel rest
      return piece :: pieces)
    (hempty : first? [] = none) (text : τ → List Char) {pieces : List τ}
    (hfirst : ∀ piece ∈ pieces, ∀ rest, first? (text piece ++ rest) = some (piece, rest))
    {fuel : Nat} (hfuel : (pieces.flatMap text).length ≤ fuel) :
    all? fuel (pieces.flatMap text) = some pieces := by
  induction pieces generalizing fuel with
  | nil => exact hnil fuel
  | cons piece pieces ih =>
    have hpiece := hfirst piece List.mem_cons_self
    -- a piece without text would be read from nothing, so that one unit of fuel is enough for it
    have hne : text piece ≠ [] := by
      intro h
      have := hpiece []
      rw [h, List.append_nil, hempty] at this
      cases this
    have hpos := List.length_pos_iff.2 hne
    rw [List.flatMap_cons, List.length_append] at hfuel
    obtain ⟨fuel, rfl⟩ : ∃ n, fuel = n + 1 := ⟨fuel - 1, by omega⟩
    have hrest : all? fuel (pieces.flatMap text) = some pieces :=
      ih (fun p hp => hfirst p (List.mem_cons_of_mem _ hp)) (by omega)
    rw [List.flatMap_cons, hcons fuel _ (List.append_ne_nil_of_left_ne_nil hne _), hpiece]
    simp only [Option.bind_eq_bind, Option.bind_some, hrest]
    rfl

end GlyphMosaic
