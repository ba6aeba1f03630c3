import GlyphMosaic.Proofs.Reduction.Reference

/-!
# Regions of one colour

The mean of equal levels need not be their level: the reciprocal of a pixel count is rounded down,
and what is cut off counts once for each pixel.  The loss grows with the remainder of `65536`
divided by the count; above 65536 pixels, where the mean is a division, there is none.

* `uniformMean` : the mean of a number of equal levels; `fixedMean_mul` says that it is.
* `Region.mean_replicate` : so it is in every region of a frame of one pixel value.
* `uniformMean_ge_iff` : which counts keep how much of a level.
-/

namespace GlyphMosaic

/-- The mean in fixed point of `count` levels `v`. -/
def uniformMean (count v : Nat) : Nat :=
  if count ≤ 65536 then v - (v * (65536 % count) + 65535) / 65536 else v

/-- Up to 65536 equal levels lose the part of the remainder, rounded up. -/
theorem fixedMean_mul {count : Nat} (hc : 0 < count) (v : Nat) :
    fixedMean count (v * count) = uniformMean count v := by
  rw [fixedMean_eq hc, uniformMean]
  split
  · rename_i hle
    have hdivision : count * (65536 / count) = 65536 - 65536 % count := by
      have := Nat.div_add_mod 65536 count
      omega
    have hremainder : v * (65536 % count) ≤ v * 65536 :=
      Nat.mul_le_mul_left v (Nat.mod_le 65536 count)
    rw [Nat.mul_assoc, hdivision, Nat.mul_sub]
    generalize v * (65536 % count) = loss at hremainder ⊢
    omega
  · exact Nat.mul_div_cancel v hc

theorem uniformMean_le (count v : Nat) : uniformMean count v ≤ v := by
  unfold uniformMean
  split <;> omega

/-- A loss of at most `k` of a positive level comes from a small remainder. -/
theorem uniformMean_ge_iff {count v k : Nat} (hk : k < v) :
    v - k ≤ uniformMean count v ↔ 65536 < count ∨ v * (65536 % count) ≤ k * 65536 := by
  unfold uniformMean
  split <;> omega

namespace Region

variable (r : Region) {n width height : Nat} (p : Pixel) (channel : Channel)

theorem sum_replicate (hcolumns : r.columns.stop ≤ width) (hrows : r.rows.stop ≤ height)
    (hn : width * height ≤ n) :
    r.sum (Array.replicate n p) width channel = (p.level channel).toNat * r.count := by
  have hlevels : (r.positions width).map (levelAt (Array.replicate n p) channel) =
      (r.positions width).map fun _ => (p.level channel).toNat := by
    refine List.map_congr_left fun i hi => ?_
    have hlt := lt_of_mem_positions hcolumns hrows hi
    exact SummedArea.levelAt_replicate p channel (Nat.lt_of_lt_of_le hlt hn)
  rw [sum_eq_sum_map, hlevels, List.map_const', List.sum_replicate_nat, length_positions,
    Nat.mul_comm]

theorem mean_replicate (hr : 0 < r.count) (hcolumns : r.columns.stop ≤ width)
    (hrows : r.rows.stop ≤ height) (hn : width * height ≤ n) :
    r.mean (Array.replicate n p) width channel = uniformMean r.count (p.level channel).toNat := by
  rw [mean, r.sum_replicate p channel hcolumns hrows hn, fixedMean_mul hr]

end Region

end GlyphMosaic
