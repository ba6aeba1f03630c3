import GlyphMosaic.Proofs.Number.Order
import GlyphMosaic.Settings

/-!
# Settings in range

* `Palette.accepts_iff` : a charset is a palette if it has from 2 to 256 characters.
* `Settings.IsInRange` : every field is in its range.
* `Settings.isInRange_clamp` : so it is with clamped settings, whatever they were.
* `Settings.IsInRange.clamp_eq` : settings in range are not changed by clamping, so that clamping
  twice is clamping once (`Settings.clamp_clamp`).
* `Settings.IsExponent.units` : the range of the exponent in terms of the numbers that bits stand
  for.
-/

namespace GlyphMosaic

theorem Palette.accepts_iff {charset : String} :
    accepts charset = true ↔ 2 ≤ charset.length ∧ charset.length ≤ 256 := by
  have hsize : charset.toList.toArray.size = charset.length := by
    rw [List.size_toArray, String.length_toList]
  unfold accepts ofString
  simp only [hsize]
  split
  · simp only [Except.isOk, Except.toBool, Bool.false_eq_true, false_iff]
    omega
  · split
    · simp only [Except.isOk, Except.toBool, Bool.false_eq_true, false_iff]
      omega
    · simp only [Except.isOk, Except.toBool, true_iff]
      omega

theorem Palette.exists_ofString {charset : String} (h : accepts charset = true) :
    ∃ p, ofString charset = .ok p := by
  cases hp : ofString charset with
  | ok p => exact ⟨p, rfl⟩
  | error refusal =>
    rw [accepts, hp] at h
    cases h

namespace Settings

/-! ### Fields -/

theorem toNat_clampExtent (n : UInt16) : (clampExtent n).toNat = max 1 (min n.toNat 1024) := by
  unfold clampExtent
  have hone : (1 : UInt16).toNat = 1 := rfl
  have hmost : (1024 : UInt16).toNat = 1024 := rfl
  split
  · rename_i h
    rw [UInt16.lt_iff_toNat_lt] at h
    omega
  · rename_i hpos
    rw [UInt16.lt_iff_toNat_lt] at hpos
    split
    · rename_i h
      rw [UInt16.lt_iff_toNat_lt] at h
      omega
    · rename_i h
      rw [UInt16.lt_iff_toNat_lt] at h
      omega

theorem clampExtent_eq {n : UInt16} (hpos : 1 ≤ n.toNat) (hle : n.toNat ≤ 1024) :
    clampExtent n = n := by
  rw [← UInt16.toNat_inj, toNat_clampExtent]
  omega

theorem clampExtent_clampExtent (n : UInt16) : clampExtent (clampExtent n) = clampExtent n := by
  have := toNat_clampExtent n
  exact clampExtent_eq (by omega) (by omega)

theorem toNat_clampWarmup (n : UInt32) : (clampWarmup n).toNat = min n.toNat 1000 := by
  unfold clampWarmup
  have hmost : (1000 : UInt32).toNat = 1000 := rfl
  split
  · rename_i h
    rw [UInt32.lt_iff_toNat_lt] at h
    omega
  · rename_i h
    rw [UInt32.lt_iff_toNat_lt] at h
    omega

theorem clampWarmup_eq {n : UInt32} (hle : n.toNat ≤ 1000) : clampWarmup n = n := by
  rw [← UInt32.toNat_inj, toNat_clampWarmup]
  omega

theorem clampWarmup_clampWarmup (n : UInt32) : clampWarmup (clampWarmup n) = clampWarmup n := by
  have := toNat_clampWarmup n
  exact clampWarmup_eq (by omega)

theorem usableCharset_eq {charset : String} (h : 2 ≤ charset.length ∧ charset.length ≤ 256) :
    usableCharset charset = charset := if_pos (Palette.accepts_iff.2 h)

theorem usableCharset_eq_compact {charset : String}
    (h : ¬(2 ≤ charset.length ∧ charset.length ≤ 256)) :
    usableCharset charset = Palette.compact := if_neg (mt Palette.accepts_iff.1 h)

theorem length_usableCharset (charset : String) :
    2 ≤ (usableCharset charset).length ∧ (usableCharset charset).length ≤ 256 := by
  by_cases h : 2 ≤ charset.length ∧ charset.length ≤ 256
  · rwa [usableCharset_eq h]
  · rw [usableCharset_eq_compact h]
    decide

/-- An exponent in its range, by the order of the numbers. -/
structure IsExponent (gamma : Binary32) : Prop where
  finite : gamma.isFinite = true
  least : gamma.lt leastGamma = false
  greatest : greatestGamma.lt gamma = false

theorem isExponent_leastGamma : IsExponent leastGamma := ⟨by decide, by decide, by decide⟩

theorem isExponent_greatestGamma : IsExponent greatestGamma := ⟨by decide, by decide, by decide⟩

theorem clampGamma_eq {gamma : Binary32} (h : IsExponent gamma) : clampGamma gamma = gamma := by
  rw [clampGamma, if_pos h.finite, Binary32.clamp, if_neg (Bool.eq_false_iff.1 h.least),
    if_neg (Bool.eq_false_iff.1 h.greatest)]

theorem isExponent_clampGamma (gamma : Binary32) : IsExponent (clampGamma gamma) := by
  -- what is not finite, and would not be moved by the clamping, is replaced before it
  have hfinite : (if gamma.isFinite then gamma else Tables.defaultGamma).isFinite = true := by
    split
    · assumption
    · decide
  unfold clampGamma Binary32.clamp
  generalize (if gamma.isFinite then gamma else Tables.defaultGamma) = x at hfinite ⊢
  split
  · exact isExponent_leastGamma
  · rename_i hleast
    split
    · exact isExponent_greatestGamma
    · rename_i hgreatest
      exact ⟨hfinite, Bool.eq_false_iff.2 hleast, Bool.eq_false_iff.2 hgreatest⟩

/-- An exponent in its range stands for a number from the one nearest to a twentieth, which is
`13421773 / 2 ^ 28`, up to four.  The unit is `1 / 2 ^ 149`. -/
theorem IsExponent.units {gamma : Binary32} (h : IsExponent gamma) :
    13421773 * 2 ^ 121 ≤ gamma.units ∧ gamma.units ≤ 4 * 2 ^ 149 := by
  have hleast : leastGamma.units = 13421773 * 2 ^ 121 := by decide
  have hgreatest : greatestGamma.units = 4 * 2 ^ 149 := by decide
  rw [← hleast, ← hgreatest, ← Int.not_lt, ← Int.not_lt,
    ← Binary32.lt_iff_units h.finite isExponent_leastGamma.finite,
    ← Binary32.lt_iff_units isExponent_greatestGamma.finite h.finite]
  exact ⟨Bool.eq_false_iff.1 h.least, Bool.eq_false_iff.1 h.greatest⟩

/-- The least exponent is the number nearest to a twentieth. -/
example : BinaryFormat.single.nearest false 5 100 = leastGamma.bits.toNat := by decide

/-! ### All fields -/

/-- Every field is in its range. -/
structure IsInRange (s : Settings) : Prop where
  charset : 2 ≤ s.charset.length ∧ s.charset.length ≤ 256
  gamma : IsExponent s.gamma
  outputWidth : 1 ≤ s.outputWidth.toNat ∧ s.outputWidth.toNat ≤ 1024
  outputHeight : 1 ≤ s.outputHeight.toNat ∧ s.outputHeight.toNat ≤ 1024
  warmupFrames : s.warmupFrames.toNat ≤ 1000

theorem isInRange_clamp (s : Settings) : s.clamp.IsInRange where
  charset := length_usableCharset s.charset
  gamma := isExponent_clampGamma s.gamma
  outputWidth := by
    have := toNat_clampExtent s.outputWidth
    change 1 ≤ (clampExtent s.outputWidth).toNat ∧ (clampExtent s.outputWidth).toNat ≤ 1024
    omega
  outputHeight := by
    have := toNat_clampExtent s.outputHeight
    change 1 ≤ (clampExtent s.outputHeight).toNat ∧ (clampExtent s.outputHeight).toNat ≤ 1024
    omega
  warmupFrames := by
    have := toNat_clampWarmup s.warmupFrames
    change (clampWarmup s.warmupFrames).toNat ≤ 1000
    omega

theorem IsInRange.clamp_eq {s : Settings} (h : s.IsInRange) : s.clamp = s := by
  obtain ⟨charset, gamma, outputWidth, outputHeight, vectorized, benchmark, warmupFrames⟩ := s
  obtain ⟨hcharset, hgamma, hwidth, hheight, hwarmup⟩ := h
  simp only [Settings.clamp, usableCharset_eq hcharset, clampGamma_eq hgamma,
    clampExtent_eq hwidth.1 hwidth.2, clampExtent_eq hheight.1 hheight.2, clampWarmup_eq hwarmup]

@[simp] theorem clamp_clamp (s : Settings) : s.clamp.clamp = s.clamp := (isInRange_clamp s).clamp_eq

end Settings

end GlyphMosaic
