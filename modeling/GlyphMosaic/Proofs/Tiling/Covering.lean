import GlyphMosaic.Proofs.Tiling.Partition

/-!
# Every axis is covered

The pieces of an axis come in order and leave no gap, whether the axis has more positions than
pieces or fewer.  In the first case they are a tiling (see `GlyphMosaic.Proofs.Tiling.Partition`),
in the second each is one position, which neighbours may share.

* `axisCut_succ_le_stop` : a piece reaches to the next boundary at least, so that there are no gaps.
* `axisCut_succ_cases` : two boundaries are as far apart as the lengths allow that differ least.
* `axisSpan_of_ge` : with at least as many pieces as positions a piece is the position at its start.
* `CoversAxis` and `TilesAxis` : spans cover an axis in order, and do so without overlapping.
* `axisSpansInWords_covers` : **so do the pieces of every axis with an extent**, without leaving the
  words that they are computed in.
-/

namespace GlyphMosaic

/-! ### Pieces and boundaries -/

section Pieces

variable {source pieces i j x : Nat}

theorem axisCut_le (hi : i ≤ pieces) (hp : 0 < pieces) : axisCut source pieces i ≤ source := by
  have := axisCut_mono source pieces hi
  rwa [axisCut_last hp] at this

theorem axisCut_succ_le_stop (hi : i < pieces) :
    axisCut source pieces (i + 1) ≤ (axisSpan source pieces i).stop := by
  have hle : axisCut source pieces (i + 1) ≤ source := axisCut_le hi (by omega)
  unfold axisCut at hle ⊢
  simp only [axisSpan]
  split <;> omega

theorem axisCut_succ_le (hp : 0 < pieces) (hle : source ≤ pieces) :
    axisCut source pieces (i + 1) ≤ axisCut source pieces i + 1 := by
  have hnext : (i + 1) * source ≤ i * source + pieces := by
    rw [Nat.succ_mul]
    exact Nat.add_le_add_left hle _
  calc axisCut source pieces (i + 1) ≤ (i * source + pieces) / pieces := Nat.div_le_div_right hnext
    _ = axisCut source pieces i + 1 := Nat.add_div_right _ hp

/-- With at least as many pieces as positions a piece is the position at its start. -/
theorem axisSpan_of_ge (hs : 0 < source) (hle : source ≤ pieces) (hi : i < pieces) :
    axisSpan source pieces i = ⟨axisCut source pieces i, axisCut source pieces i + 1⟩ := by
  have hlt : axisCut source pieces i < source := axisSpan_start_lt hs hi
  have hnext := @axisCut_succ_le source pieces i (by omega) hle
  unfold axisCut at hlt hnext
  simp only [axisSpan, axisCut, Span.mk.injEq, true_and]
  split <;> omega

/-- Boundaries are as far apart as the quotient of the lengths, rounded down or up. -/
theorem axisCut_succ_cases (hp : 0 < pieces) :
    axisCut source pieces (i + 1) = axisCut source pieces i + source / pieces ∨
      axisCut source pieces (i + 1) = axisCut source pieces i + (source + pieces - 1) / pieces := by
  have hstep : axisCut source pieces (i + 1) = axisCut source pieces i + source / pieces +
      if pieces ≤ i * source % pieces + source % pieces then 1 else 0 := by
    unfold axisCut
    rw [Nat.succ_mul, Nat.add_div hp]
  rw [hstep]
  split
  · -- the remainders add up to a position more, so that the quotient is not exact
    rename_i hcarry
    right
    have hrest := Nat.mod_lt (i * source) hp
    have hup : (source + pieces - 1) / pieces = source / pieces + 1 := by
      have hdivision := Nat.div_add_mod source pieces
      refine Nat.div_eq_of_lt_le ?_ ?_
      · rw [Nat.succ_mul, Nat.mul_comm]
        omega
      · rw [Nat.succ_mul, Nat.succ_mul, Nat.mul_comm]
        have := Nat.mod_lt source hp
        omega
    rw [hup, Nat.add_assoc]
  · exact .inl rfl

theorem axisSpan_stop_mono (hs : 0 < source) (hij : i ≤ j) (hj : j < pieces) :
    (axisSpan source pieces i).stop ≤ (axisSpan source pieces j).stop := by
  rcases Nat.le_total pieces source with hle | hle
  · rw [axisSpan_of_le hle (by omega), axisSpan_of_le hle hj]
    exact axisCut_mono source pieces (Nat.succ_le_succ hij)
  · rw [axisSpan_of_ge hs hle (by omega), axisSpan_of_ge hs hle hj]
    exact Nat.succ_le_succ (axisCut_mono source pieces hij)

theorem axisSpan_last_stop (hp : 0 < pieces) :
    (axisSpan source pieces (pieces - 1)).stop = source := by
  refine Nat.le_antisymm axisSpan_stop_le ?_
  have hreach : axisCut source pieces (pieces - 1 + 1) ≤
      (axisSpan source pieces (pieces - 1)).stop :=
    axisCut_succ_le_stop (by omega)
  rwa [Nat.sub_add_cancel hp, axisCut_last hp] at hreach

theorem exists_axisSpan_contains (hp : 0 < pieces) (hx : x < source) :
    ∃ i < pieces, (axisSpan source pieces i).Contains x := by
  obtain ⟨i, hi, hle, hlt⟩ := exists_axisCut_le_lt (n := pieces) (by rwa [axisCut_last hp])
  exact ⟨i, hi, hle, Nat.lt_of_lt_of_le hlt (axisCut_succ_le_stop hi)⟩

end Pieces

/-! ### Covered axes -/

/-- Spans cover an axis in order. -/
structure CoversAxis (spans : Array Span) (source pieces : Nat) : Prop where
  /-- There is a span for each piece. -/
  size : spans.size = pieces
  /-- The first one starts where the axis does. -/
  first : ∃ s, spans[0]? = some s ∧ s.start = 0
  /-- The last one ends where the axis does. -/
  last : ∃ s, spans[pieces - 1]? = some s ∧ s.stop = source
  /-- No span is empty. -/
  nonempty : ∀ s ∈ spans, s.isEmpty = false ∧ 0 < s.length
  /-- All lie in the axis. -/
  inside : ∀ s ∈ spans, s.start < source ∧ s.stop ≤ source
  /-- They neither start nor end before those in front of them do. -/
  ordered : ∀ (i j : Nat) (s t : Span), i ≤ j → spans[i]? = some s → spans[j]? = some t →
    s.start ≤ t.start ∧ s.stop ≤ t.stop
  /-- There is no gap between neighbours. -/
  gapless : ∀ (i : Nat) (s t : Span), spans[i]? = some s → spans[i + 1]? = some t → t.start ≤ s.stop
  /-- Every position lies in a span. -/
  complete : ∀ x < source, ∃ s ∈ spans, s.Contains x

/-- Spans cover an axis without overlapping, and their lengths differ by one at most. -/
structure TilesAxis (spans : Array Span) (source pieces : Nat) : Prop where
  /-- A span ends where the next one starts. -/
  adjacent : ∀ (i : Nat) (s t : Span), spans[i]? = some s →
    spans[i + 1]? = some t → s.stop = t.start
  /-- Every position lies in exactly one of them. -/
  unique : ∀ x < source, ∃! i : Nat, ∃ s, spans[i]? = some s ∧ s.Contains x
  /-- Their lengths are the quotient of the axis and the pieces, rounded down or up. -/
  length : ∀ s ∈ spans, s.length = source / pieces ∨ s.length = (source + pieces - 1) / pieces

section Axes

variable {source pieces : Nat}

theorem coversAxis_axisSpans (hs : 0 < source) (hp : 0 < pieces) :
    CoversAxis (axisSpans source pieces) source pieces := by
  refine ⟨size_axisSpans_of_pos hp, ⟨_, (getElem?_axisSpans hp).2 ⟨hp, rfl⟩, axisCut_zero⟩,
    ⟨_, (getElem?_axisSpans hp).2 ⟨by omega, rfl⟩, axisSpan_last_stop hp⟩, ?_, ?_, ?_, ?_, ?_⟩
  · intro s hmem
    obtain ⟨i, hi, rfl⟩ := (mem_axisSpans hp).1 hmem
    have hlt := axisSpan_start_lt_stop hs hi
    exact ⟨decide_eq_false (Nat.not_le.2 hlt), axisSpan_length_pos hs hi⟩
  · intro s hmem
    obtain ⟨i, hi, rfl⟩ := (mem_axisSpans hp).1 hmem
    exact ⟨axisSpan_start_lt hs hi, axisSpan_stop_le⟩
  · intro i j s t hij hs' ht
    obtain ⟨-, rfl⟩ := (getElem?_axisSpans hp).1 hs'
    obtain ⟨hj, rfl⟩ := (getElem?_axisSpans hp).1 ht
    exact ⟨axisCut_mono source pieces hij, axisSpan_stop_mono hs hij hj⟩
  · intro i s t hs' ht
    obtain ⟨hi, rfl⟩ := (getElem?_axisSpans hp).1 hs'
    obtain ⟨-, rfl⟩ := (getElem?_axisSpans hp).1 ht
    exact axisCut_succ_le_stop hi
  · intro x hx
    obtain ⟨i, hi, hcontains⟩ := exists_axisSpan_contains hp hx
    exact ⟨_, (mem_axisSpans hp).2 ⟨i, hi, rfl⟩, hcontains⟩

theorem tilesAxis_axisSpans (hp : 0 < pieces) (hle : pieces ≤ source) :
    TilesAxis (axisSpans source pieces) source pieces := by
  refine ⟨?_, ?_, ?_⟩
  · intro i s t hs' ht
    obtain ⟨hi, rfl⟩ := (getElem?_axisSpans hp).1 hs'
    obtain ⟨-, rfl⟩ := (getElem?_axisSpans hp).1 ht
    rw [axisSpan_of_le hle hi]
    rfl
  · intro x hx
    obtain ⟨i, ⟨hi, hcontains⟩, honly⟩ := existsUnique_axisSpan hp hle hx
    refine ⟨i, ⟨_, (getElem?_axisSpans hp).2 ⟨hi, rfl⟩, hcontains⟩, ?_⟩
    rintro j ⟨s, hs', hcontains'⟩
    obtain ⟨hj, rfl⟩ := (getElem?_axisSpans hp).1 hs'
    exact honly j ⟨hj, hcontains'⟩
  · intro s hmem
    obtain ⟨i, hi, rfl⟩ := (mem_axisSpans hp).1 hmem
    rw [axisSpan_of_le hle hi]
    rcases @axisCut_succ_cases source pieces i hp with hdown | hup
    · exact .inl (by simp only [Span.length, hdown, Nat.add_sub_cancel_left])
    · exact .inr (by simp only [Span.length, hup, Nat.add_sub_cancel_left])

/-- **The pieces of every axis with an extent cover it in order**, and none of the products and
positions on the way leaves its word.  With at least as many positions as pieces they tile the axis;
with fewer, piece `i` is the one position `⌊i * source / pieces⌋`. -/
theorem axisSpansInWords_covers {source pieces : UInt32} (hs : 0 < source.toNat)
    (hp : 0 < pieces.toNat) : ∃ spans, axisSpansInWords source pieces = .ok spans ∧
      CoversAxis spans source.toNat pieces.toNat ∧
      (pieces.toNat ≤ source.toNat → TilesAxis spans source.toNat pieces.toNat) ∧
      (source.toNat < pieces.toNat → (∀ s ∈ spans, s.length = 1) ∧
        ∀ i < pieces.toNat, spans[i]? = some ⟨i * source.toNat / pieces.toNat,
          i * source.toNat / pieces.toNat + 1⟩) := by
  refine ⟨_, axisSpansInWords_eq source pieces, coversAxis_axisSpans hs hp, tilesAxis_axisSpans hp,
    fun hlt => ⟨?_, ?_⟩⟩
  · intro s hmem
    obtain ⟨i, hi, rfl⟩ := (mem_axisSpans hp).1 hmem
    rw [axisSpan_of_ge hs (Nat.le_of_lt hlt) hi]
    exact Nat.add_sub_cancel_left _ _
  · intro i hi
    rw [(getElem?_axisSpans hp).2 ⟨hi, rfl⟩, axisSpan_of_ge hs (Nat.le_of_lt hlt) hi]
    rfl

/-- The longest axis in one piece less than it has positions, and three positions in as many pieces
as there can be. -/
theorem axisSpansInWords_covers_longest : ∃ tiles points,
    axisSpansInWords 4294967295 4294967294 = .ok tiles ∧ tiles.size = 4294967294 ∧
    (∃ s, tiles[4294967293]? = some s ∧ s.stop = 4294967295) ∧
    (∀ s ∈ tiles, s.length = 1 ∨ s.length = 2) ∧
    axisSpansInWords 3 4294967295 = .ok points ∧ points[4294967294]? = some ⟨2, 3⟩ := by
  obtain ⟨tiles, htiles, hcovers, htile, -⟩ :=
    @axisSpansInWords_covers 4294967295 4294967294 (by decide) (by decide)
  obtain ⟨points, hpoints, -, -, hpoint⟩ :=
    @axisSpansInWords_covers 3 4294967295 (by decide) (by decide)
  exact ⟨tiles, points, htiles, hcovers.size, hcovers.last, (htile (by decide)).length, hpoints,
    (hpoint (by decide)).2 4294967294 (by decide)⟩

end Axes

end GlyphMosaic
