import GlyphMosaic.Proofs.Reduction.Brightness
import GlyphMosaic.Proofs.Reduction.Uniform
import GlyphMosaic.Proofs.Tiling.Maps

/-!
# How far a mean is off

The mean of a region is read off its pixel count and that count's reciprocal.  The reciprocal is
rounded down, and so is the product with it: the mean is never above the true one, and is below it
by what the remainder of `65536` divided by the count leaves for each level.

* `fixedMean_eq_div_of_dvd` : a count that divides `65536` loses nothing.
* `div_le_fixedMean_add` : what other counts lose at most, and white regions do lose
  (`fixedMean_white_add`).
* `RegionMap.exists_of_fetch_counts` : the counts that a map keeps are those of its cells.
* `RegionMap.average_close` : **so much, and no more, is any mean off that is read off a map**,
  whatever the map went through.
-/

namespace GlyphMosaic

/-! ### Losses -/

section Losses

variable {count sum v : Nat}

theorem fixedMean_eq_div_of_lt (h : 65536 < count) (sum : Nat) :
    fixedMean count sum = sum / count := by
  rw [fixedMean_eq (by omega), if_neg (by omega)]

theorem fixedMean_eq_div_of_dvd (h : count ∣ 65536) (sum : Nat) :
    fixedMean count sum = sum / count := by
  have hpos : 0 < count := Nat.pos_of_dvd_of_pos h (by decide)
  have hle : count ≤ 65536 := Nat.le_of_dvd (by decide) h
  obtain ⟨inverse, hinverse⟩ := h
  have hinverse_pos : 0 < inverse := Nat.pos_of_ne_zero (by rintro rfl; omega)
  rw [fixedMean_eq hpos, if_pos hle]
  change sum * (65536 / count) / 65536 = sum / count
  rw [hinverse, Nat.mul_div_cancel_left _ hpos, Nat.mul_div_mul_right _ _ hinverse_pos]

/-- Up to a true mean of `v`, no more is lost than that many levels of `v` lose. -/
theorem div_le_fixedMean_add (hc : 0 < count) (hv : sum / count ≤ v) :
    sum / count ≤ fixedMean count sum + (v * (65536 % count) + 65535) / 65536 := by
  -- `count` levels of the true mean have no greater sum
  have hmono := fixedMean_mono count (Nat.div_mul_le_self sum count)
  rw [fixedMean_mul hc, uniformMean] at hmono
  have hloss := Nat.mul_le_mul_right (65536 % count) hv
  split at hmono <;> omega

theorem fixedMean_white_add (hc : 0 < count) (hle : count ≤ 65536) :
    fixedMean count (255 * count) + (255 * (65536 % count) + 65535) / 65536 = 255 := by
  have hrest := Nat.mod_lt 65536 hc
  rw [fixedMean_mul hc, uniformMean, if_pos hle]
  omega

theorem white_loss_le_one (hc : 0 < count) (hle : count ≤ 258) :
    (255 * (65536 % count) + 65535) / 65536 ≤ 1 := by
  have hrest := Nat.mod_lt 65536 hc
  omega

end Losses

/-! ### Maps -/

namespace RegionMap

variable {m : RegionMap} {d : Dimensions} {history : List Call} {i count sum : Nat}

theorem counts_of_ofDimensions (h : ofDimensions d = .ok m) :
    m.counts = cellCounts m.columns m.rows ∧ m.reciprocals = m.counts.map reciprocal := by
  rw [ofDimensions_eq_map] at h
  cases hcounts : countCells (axisSpans d.sourceWidth.toNat d.outputWidth.toNat)
    (axisSpans d.sourceHeight.toNat d.outputHeight.toNat) with
  | error e => rw [hcounts] at h; cases h
  | ok counts =>
    rw [hcounts] at h
    cases h
    exact ⟨countCells_eq_ok hcounts, rfl⟩

theorem counts_afterAll (h : empty.afterAll history = .ok m) :
    m.counts = cellCounts m.columns m.rows ∧ m.reciprocals = m.counts.map reciprocal := by
  rcases afterAll_cases h with rfl | ⟨d, hm⟩
  · simp [empty, cellCounts]
  · exact counts_of_ofDimensions hm

theorem exists_of_fetch_counts (hm : m.counts = cellCounts m.columns m.rows)
    (h : fetch m.counts i = .ok count) :
    ∃ (column row : Nat) (c r : Span), i = m.position column row ∧
      m.columns[column]? = some c ∧ m.rows[row]? = some r ∧ count = r.length * c.length := by
  rw [fetch_eq_ok, hm, Array.getElem?_eq_some_iff] at h
  obtain ⟨hi, hcount⟩ := h
  rw [cellCounts, size_firstValues] at hi
  have hcolumns : 0 < m.columns.size := Nat.pos_of_mul_pos_left (Nat.zero_lt_of_lt hi)
  have hcolumn := Nat.mod_lt i hcolumns
  have hrow : i / m.columns.size < m.rows.size := Nat.div_lt_of_lt_mul (by rwa [Nat.mul_comm])
  refine ⟨i % m.columns.size, i / m.columns.size, m.columns[i % m.columns.size],
    m.rows[i / m.columns.size], ?_, Array.getElem?_eq_getElem hcolumn,
    Array.getElem?_eq_getElem hrow, ?_⟩
  · rw [position, Nat.mul_comm]
    exact (Nat.div_add_mod _ _).symm
  · rw [← hcount]
    simp [cellCounts, firstValues, hcolumn, hrow]

/-- **How far a mean is off.**  In a map that any history of builds and releases leads to, let a
cell keep the count of its pixels, which is not none, and let a sum be one of so many bytes.
Reading the mean leaves no word and gives a byte that is never above the true mean.  It is the true
one above 65536 pixels and where the count divides 65536; it is below by at most
`⌈255 * (65536 % count) / 65536⌉`, which is one for up to 258 pixels, and by just that for the sum
of a white region. -/
theorem average_close (hm : empty.afterAll history = .ok m) (hcount : fetch m.counts i = .ok count)
    (hpos : 1 ≤ count) (hsum : sum ≤ 255 * count) :
    (∃ (column row : Nat) (c r : Span), i = m.position column row ∧ m.columns[column]? = some c ∧
      m.rows[row]? = some r ∧ count = r.length * c.length) ∧
    sum * reciprocal count < 2 ^ 64 ∧
    ∃ mean, m.average i sum = .ok mean ∧ mean ≤ sum / count ∧ mean ≤ 255 ∧
      (65536 < count ∨ count ∣ 65536 → mean = sum / count) ∧
      sum / count ≤ mean + (255 * (65536 % count) + 65535) / 65536 ∧
      (count ≤ 258 → sum / count ≤ mean + 1) ∧
      (count ≤ 65536 → sum = 255 * count →
        sum / count = mean + (255 * (65536 % count) + 65535) / 65536) := by
  obtain ⟨hcounts, hreciprocals⟩ := counts_afterAll hm
  have hinverse : fetch m.reciprocals i = .ok (reciprocal count) := by
    rw [fetch_eq_ok] at hcount ⊢
    rw [hreciprocals, Array.getElem?_map, hcount]
    rfl
  have hle : sum / count ≤ 255 := Nat.div_le_of_le_mul (by rwa [Nat.mul_comm])
  have hbelow := fixedMean_le_div hpos sum
  have hloss := div_le_fixedMean_add hpos hle
  refine ⟨exists_of_fetch_counts hcounts hcount, mul_reciprocal_lt hsum, fixedMean count sum,
    average_of_fetch hcount hinverse hpos hsum, hbelow, by omega, ?_, hloss, fun hfew => ?_,
    fun hfew hwhite => ?_⟩
  · rintro (hmany | hdvd)
    · exact fixedMean_eq_div_of_lt hmany sum
    · exact fixedMean_eq_div_of_dvd hdvd sum
  · have := white_loss_le_one hpos hfew
    omega
  · rw [hwhite, Nat.mul_div_cancel _ hpos]
    exact (fixedMean_white_add hpos hfew).symm

/-- A white cell of 1821 pixels, after maps of other dimensions, loses eight levels. -/
theorem average_close_white : ∃ m,
    empty.afterAll [.build ⟨3, 2, 5, 4⟩, .release, .build ⟨4, 4, 2, 2⟩,
      .build ⟨1821, 1, 1, 1⟩] = .ok m ∧
    fetch m.counts 0 = .ok 1821 ∧ ∃ mean, m.average 0 (255 * 1821) = .ok mean ∧ mean + 8 = 255 := by
  obtain ⟨m, hm, hcount⟩ : ∃ m, empty.afterAll [.build ⟨3, 2, 5, 4⟩, .release, .build ⟨4, 4, 2, 2⟩,
      .build ⟨1821, 1, 1, 1⟩] = .ok m ∧ fetch m.counts 0 = .ok 1821 := ⟨_, rfl, by decide⟩
  obtain ⟨-, -, mean, haverage, -, -, -, -, -, hwhite⟩ :=
    average_close hm hcount (by decide) (Nat.le_refl _)
  exact ⟨m, hm, hcount, mean, haverage, (hwhite (by decide) rfl).symm⟩

end RegionMap

end GlyphMosaic
