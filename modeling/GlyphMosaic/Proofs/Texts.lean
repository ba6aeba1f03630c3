import GlyphMosaic.Text.Blank

/-!
# The ends of a text

Where the characters that a text starts or ends with are told from the others.

* `span_eq_iff` : a list is split in front of its first element without a property.
* `Text.trim_eq_iff` : trimming takes away the blanks around a text, and nothing else.
-/

namespace GlyphMosaic

theorem span_eq_iff {α : Type} {p : α → Bool} {xs front rest : List α} :
    xs.takeWhile p = front ∧ xs.dropWhile p = rest ↔
      xs = front ++ rest ∧ (∀ x ∈ front, p x) ∧ ∀ x ∈ rest.head?, p x = false := by
  constructor
  · rintro ⟨rfl, rfl⟩
    refine ⟨List.takeWhile_append_dropWhile.symm, List.all_eq_true.1 List.all_takeWhile,
      fun x hx => ?_⟩
    have hhead := List.head?_dropWhile_not p xs
    rwa [Option.mem_def.1 hx] at hhead
  · rintro ⟨rfl, hfront, hrest⟩
    rw [List.takeWhile_append_of_pos hfront, List.dropWhile_append_of_pos hfront]
    cases rest with
    | nil => simp
    | cons x rest => simp [hrest x rfl]

namespace Text

variable {cs core : List Char}

/-- One text is another without the blanks around it. -/
structure IsTrimmed (cs core : List Char) : Prop where
  around : ∃ front back, cs = front ++ (core ++ back) ∧ (∀ c ∈ front, isBlank c) ∧
    ∀ c ∈ back, isBlank c
  first : ∀ c ∈ core.head?, isBlank c = false
  last : ∀ c ∈ core.getLast?, isBlank c = false

theorem isTrimmed_trim (cs : List Char) : IsTrimmed cs (trim cs) := by
  generalize hrest : cs.dropWhile isBlank = rest
  obtain ⟨heq, hfront, hfirst⟩ := span_eq_iff.1 (And.intro rfl hrest)
  generalize hcore : rest.reverse.dropWhile isBlank = core
  obtain ⟨heq', hback, hlast⟩ := span_eq_iff.1 (And.intro rfl hcore)
  have htrim : trim cs = core.reverse := by rw [trim, hrest, hcore]
  generalize rest.reverse.takeWhile isBlank = back at heq' hback
  have hsplit : rest = core.reverse ++ back.reverse := by
    rw [← List.reverse_append, ← heq', List.reverse_reverse]
  rw [htrim]
  refine ⟨⟨_, back.reverse, hsplit ▸ heq, hfront, fun c hc => hback c (List.mem_reverse.1 hc)⟩,
    fun c hc => hfirst c ?_, fun c hc => hlast c ?_⟩
  · rw [hsplit, List.head?_append, Option.mem_def.1 hc]
    rfl
  · rwa [List.getLast?_reverse] at hc

theorem IsTrimmed.trim_eq (h : IsTrimmed cs core) : trim cs = core := by
  obtain ⟨⟨front, back, rfl, hfront, hback⟩, hfirst, hlast⟩ := h
  have hright : (core ++ back).reverse.dropWhile isBlank = core.reverse := by
    rw [List.reverse_append]
    exact (span_eq_iff.2 ⟨rfl, by simpa using hback, by simpa using hlast⟩).2
  cases core with
  | nil =>
    have hall : ∀ c ∈ front ++ ([] ++ back), isBlank c := fun c hc =>
      (List.mem_append.1 hc).elim (hfront c) (hback c)
    have hnone : (front ++ ([] ++ back)).dropWhile isBlank = [] :=
      (span_eq_iff.2 ⟨(List.append_nil _).symm, hall, by simp⟩).2
    rw [trim, hnone]
    rfl
  | cons c core =>
    have hhead : ∀ d ∈ (c :: core ++ back).head?, isBlank d = false := hfirst
    have hleft : (front ++ (c :: core ++ back)).dropWhile isBlank = c :: core ++ back :=
      (span_eq_iff.2 ⟨rfl, hfront, hhead⟩).2
    rw [trim, hleft, hright, List.reverse_reverse]

/-- Trimming takes away the blanks around a text, and nothing else. -/
theorem trim_eq_iff : trim cs = core ↔ IsTrimmed cs core :=
  ⟨fun h => h ▸ isTrimmed_trim cs, IsTrimmed.trim_eq⟩

end Text

end GlyphMosaic
