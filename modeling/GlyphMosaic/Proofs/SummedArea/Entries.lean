import GlyphMosaic.SummedArea
import Mathlib.Algebra.BigOperators.Intervals
import Mathlib.Algebra.Order.BigOperators.Group.Finset
import Mathlib.Tactic.Ring

/-!
# What the entries of a summed-area table are

`SumTable.levelSum` is the sum of the levels over a rectangle, and `SumTable.corner` that over the
rectangle between a place and the upper left corner of the frame.

* `fillRow_getD` and `fillRow_getD_of_ne` : a row is written from the row above it and from nothing
  else, and nothing else is written.
* `SumsTo` : the rows of a table up to a given one hold the corners.  `SumsTo.step` is one row more,
  and `fill_sumsTo` the whole table, whatever the table it was written over held.
* `fill_getD_le` : a bound on all entries, old ones behind the new frame included.
* `corner_add_corner` : the four corners of a rectangle give its sum.
-/

namespace GlyphMosaic

namespace SumTable

open Finset

/-! ### Sums over rectangles -/

/-- The sum of the levels in the columns from `x₀` up to `x₁` and the rows from `y₀` up to `y₁` of a
frame of width `w`. -/
def levelSum (level : Nat → Nat) (w x₀ x₁ y₀ y₁ : Nat) : Nat :=
  ∑ y ∈ Ico y₀ y₁, ∑ x ∈ Ico x₀ x₁, level (y * w + x)

/-- The sum of the levels left of column `x` and above row `y`. -/
def corner (level : Nat → Nat) (w x y : Nat) : Nat := levelSum level w 0 x 0 y

section Sums

variable (level : Nat → Nat) (w : Nat)

theorem levelSum_add_columns {x₀ x₁ x₂ : Nat} (y₀ y₁ : Nat) (h₁ : x₀ ≤ x₁) (h₂ : x₁ ≤ x₂) :
    levelSum level w x₀ x₁ y₀ y₁ + levelSum level w x₁ x₂ y₀ y₁ = levelSum level w x₀ x₂ y₀ y₁ := by
  unfold levelSum
  rw [← sum_add_distrib]
  exact sum_congr rfl fun y _ => sum_Ico_consecutive _ h₁ h₂

theorem levelSum_add_rows (x₀ x₁ : Nat) {y₀ y₁ y₂ : Nat} (h₁ : y₀ ≤ y₁) (h₂ : y₁ ≤ y₂) :
    levelSum level w x₀ x₁ y₀ y₁ + levelSum level w x₀ x₁ y₁ y₂ = levelSum level w x₀ x₁ y₀ y₂ :=
  sum_Ico_consecutive _ h₁ h₂

@[simp] theorem levelSum_self (x y₀ y₁ : Nat) : levelSum level w x x y₀ y₁ = 0 := by
  simp [levelSum]

/-- The corners of a rectangle give the sum over it. -/
theorem corner_add_corner {x₀ x₁ y₀ y₁ : Nat} (hx : x₀ ≤ x₁) (hy : y₀ ≤ y₁) :
    corner level w x₁ y₁ + corner level w x₀ y₀ =
      levelSum level w x₀ x₁ y₀ y₁ + corner level w x₀ y₁ + corner level w x₁ y₀ := by
  unfold corner
  have hright := levelSum_add_rows level w 0 x₁ (Nat.zero_le y₀) hy
  have hleft := levelSum_add_rows level w 0 x₀ (Nat.zero_le y₀) hy
  have hbelow := levelSum_add_columns level w y₀ y₁ (Nat.zero_le x₀) hx
  omega

@[simp] theorem corner_zero_left (y : Nat) : corner level w 0 y = 0 := levelSum_self ..

@[simp] theorem corner_zero_right (x : Nat) : corner level w x 0 = 0 := by
  simp [corner, levelSum]

theorem corner_succ (x y : Nat) :
    corner level w x (y + 1) = corner level w x y + ∑ k ∈ Ico 0 x, level (y * w + k) := by
  unfold corner levelSum
  rw [sum_Ico_succ_top (Nat.zero_le y)]

variable {level w}

theorem levelSum_le (hlevel : ∀ i, level i ≤ 255) (x₀ x₁ y₀ y₁ : Nat) :
    levelSum level w x₀ x₁ y₀ y₁ ≤ 255 * ((x₁ - x₀) * (y₁ - y₀)) := by
  have hrow : ∀ y ∈ Ico y₀ y₁, ∑ x ∈ Ico x₀ x₁, level (y * w + x) ≤ (x₁ - x₀) * 255 := by
    intro y _
    have := sum_le_card_nsmul (Ico x₀ x₁) (fun x => level (y * w + x)) 255 fun x _ => hlevel _
    simpa using this
  have := sum_le_card_nsmul (Ico y₀ y₁) _ _ hrow
  rw [Nat.card_Ico, nsmul_eq_mul, Nat.cast_id] at this
  exact this.trans_eq (by ring)

theorem corner_le (hlevel : ∀ i, level i ≤ 255) {x y h : Nat} (hx : x ≤ w) (hy : y ≤ h) :
    corner level w x y ≤ 255 * (w * h) :=
  (levelSum_le hlevel 0 x 0 y).trans
    (Nat.mul_le_mul_left _ (Nat.mul_le_mul (by simpa using hx) (by simpa using hy)))

theorem corner_const {v h x y : Nat} (hlevel : ∀ i < w * h, level i = v) (hx : x ≤ w) (hy : y ≤ h) :
    corner level w x y = v * (x * y) := by
  have hrow : ∀ y' ∈ Ico 0 y, ∑ x' ∈ Ico 0 x, level (y' * w + x') = x * v := by
    intro y' hy'
    rw [mem_Ico] at hy'
    have hle : (y' + 1) * w ≤ h * w := Nat.mul_le_mul_right _ (by omega)
    rw [Nat.succ_mul, Nat.mul_comm h] at hle
    have hval : ∀ x' ∈ Ico 0 x, level (y' * w + x') = v := by
      intro x' hx'
      rw [mem_Ico] at hx'
      exact hlevel _ (by omega)
    rw [sum_congr rfl hval, sum_const, Nat.card_Ico, Nat.sub_zero, nsmul_eq_mul, Nat.cast_id]
  unfold corner levelSum
  rw [sum_congr rfl hrow, sum_const, Nat.card_Ico, Nat.sub_zero, nsmul_eq_mul, Nat.cast_id]
  ring

end Sums

/-! ### Single entries

Entries past the end count as `0`, so that growing a table changes none. -/

theorem getD_setIfInBounds (t : Array Nat) (i v j : Nat) :
    (t.setIfInBounds i v).getD j 0 = if i = j ∧ i < t.size then v else t.getD j 0 := by
  simp only [Array.getD_eq_getD_getElem?, Array.getElem?_setIfInBounds]
  by_cases h : i = j
  · subst h
    by_cases hi : i < t.size <;> simp [hi]
  · simp [h]

theorem getD_setIfInBounds_ne {t : Array Nat} {i j : Nat} (h : i ≠ j) (v : Nat) :
    (t.setIfInBounds i v).getD j 0 = t.getD j 0 := by
  rw [getD_setIfInBounds, if_neg fun h' => h h'.1]

theorem getD_setIfInBounds_zero (t : Array Nat) (i j : Nat) :
    (t.setIfInBounds i 0).getD j 0 = if i = j then 0 else t.getD j 0 := by
  rw [getD_setIfInBounds]
  by_cases h : i = j
  · subst h
    by_cases hi : i < t.size <;> simp [hi]
  · rw [if_neg fun h' => h h'.1, if_neg h]

theorem grow_getD (needed : Nat) (t : Array Nat) (j : Nat) :
    (grow needed t).getD j 0 = t.getD j 0 := by
  rw [grow, Array.getD_eq_getD_getElem?, Array.getD_eq_getD_getElem?, Array.getElem?_append]
  split
  · rfl
  · rename_i h
    rw [Array.getElem?_eq_none (Nat.not_lt.1 h), Array.getElem?_replicate]
    split <;> rfl

theorem zero_getD (n i : Nat) (t : Array Nat) (j : Nat) :
    (zero n i t).getD j 0 = if i ≤ j ∧ j < i + n then 0 else t.getD j 0 := by
  induction n generalizing i t with
  | zero => rw [zero, if_neg (by omega)]
  | succ n ih =>
    rw [zero, ih, getD_setIfInBounds_zero]
    by_cases hj : i = j
    · subst hj; simp
    · by_cases h : i + 1 ≤ j ∧ j < i + 1 + n
      · rw [if_pos h, if_pos (by omega)]
      · rw [if_neg h, if_neg hj, if_neg (by omega)]

/-! ### One row -/

theorem fillRow_getD_of_ne {level : Nat → Nat} {above here n x sum : Nat} {t : Array Nat} {j : Nat}
    (hj : j ≤ here + x ∨ here + x + n < j) :
    (fillRow level above here n x sum t).getD j 0 = t.getD j 0 := by
  induction n generalizing x sum t with
  | zero => rfl
  | succ n ih => rw [fillRow, ih (by omega), getD_setIfInBounds_ne (by omega)]

/-- An entry of the row is the sum of the levels left of it in the row, plus the entry above it.
The row above ends before this one begins, so that it is not written over on the way. -/
theorem fillRow_getD (level : Nat → Nat) (above here : Nat) {n x : Nat} (sum : Nat) {t : Array Nat}
    {k : Nat} (hk : k < n) (habove : above + n ≤ here) (hsize : here + x + n < t.size) :
    (fillRow level above here n x sum t).getD (here + x + k + 1) 0 =
      sum + ∑ i ∈ Ico x (x + k + 1), level i + t.getD (above + x + k + 1) 0 := by
  induction n generalizing x sum t k with
  | zero => omega
  | succ n ih =>
    rw [fillRow]
    cases k with
    | zero =>
      rw [fillRow_getD_of_ne (by omega), getD_setIfInBounds, if_pos ⟨rfl, by omega⟩]
      simp
    | succ k =>
      have h := ih (x := x + 1) (sum + level x)
        (t := t.setIfInBounds (here + x + 1) (sum + level x + t.getD (above + x + 1) 0))
        (k := k) (by omega) (by omega) (by rw [Array.size_setIfInBounds]; omega)
      rw [show here + (x + 1) + k + 1 = here + x + (k + 1) + 1 by omega,
        getD_setIfInBounds_ne (by omega)] at h
      rw [h, sum_eq_sum_Ico_succ_bot (show x < x + (k + 1) + 1 by omega),
        show x + 1 + k + 1 = x + (k + 1) + 1 by omega,
        show above + (x + 1) + k + 1 = above + x + (k + 1) + 1 by omega]
      omega

/-! ### All rows -/

/-- The rows up to `y` of a table for frames of width `w` hold the corners. -/
def SumsTo (level : Nat → Nat) (w y : Nat) (t : Array Nat) : Prop :=
  ∀ y' ≤ y, ∀ x ≤ w, t.getD (y' * (w + 1) + x) 0 = corner level w x y'

variable {level : Nat → Nat} {w : Nat}

theorem SumsTo.step {y : Nat} {t : Array Nat} (h : SumsTo level w y t)
    (hsize : (y + 2) * (w + 1) ≤ t.size) :
    SumsTo level w (y + 1)
      (fillRow (fun x => level (y * w + x)) (y * (w + 1)) ((y + 1) * (w + 1)) w 0 0
        (t.setIfInBounds ((y + 1) * (w + 1)) 0)) := by
  have hnext : (y + 1) * (w + 1) = y * (w + 1) + (w + 1) := Nat.succ_mul _ _
  have hend : (y + 2) * (w + 1) = y * (w + 1) + (w + 1) + (w + 1) := by
    rw [Nat.succ_mul, Nat.succ_mul]
  intro y' hy' x hx
  by_cases hold : y' ≤ y
  · -- the rows that are there are kept
    have := Nat.mul_le_mul_right (w + 1) hold
    rw [fillRow_getD_of_ne (by omega), getD_setIfInBounds_ne (by omega)]
    exact h y' hold x hx
  · obtain rfl : y' = y + 1 := by omega
    cases x with
    | zero =>
      -- the first entry of the row was written before the others
      rw [fillRow_getD_of_ne (by omega), getD_setIfInBounds_zero, if_pos (Nat.add_zero _).symm,
        corner_zero_left]
    | succ k =>
      have hentry := fillRow_getD (fun x => level (y * w + x)) (y * (w + 1)) ((y + 1) * (w + 1))
        (n := w) (x := 0) 0 (t := t.setIfInBounds ((y + 1) * (w + 1)) 0)
        (k := k) (by omega) (by omega) (by rw [Array.size_setIfInBounds]; omega)
      rw [getD_setIfInBounds_ne (by omega)] at hentry
      rw [show (y + 1) * (w + 1) + (k + 1) = (y + 1) * (w + 1) + 0 + k + 1 by omega, hentry,
        show y * (w + 1) + 0 + k + 1 = y * (w + 1) + (k + 1) by omega,
        h y (Nat.le_refl y) (k + 1) hx, corner_succ, show 0 + k + 1 = k + 1 by omega]
      omega

theorem fillRows_sumsTo {n y : Nat} {t : Array Nat} (h : SumsTo level w y t)
    (hsize : (y + n + 1) * (w + 1) ≤ t.size) : SumsTo level w (y + n) (fillRows level w n y t) := by
  induction n generalizing y t with
  | zero => exact h
  | succ n ih =>
    have hrow : (y + 2) * (w + 1) ≤ t.size :=
      (Nat.mul_le_mul_right _ (by omega)).trans hsize
    have := ih (h.step hrow) (by
      rw [size_fillRow, Array.size_setIfInBounds]
      exact (Nat.le_of_eq (by congr 1; omega)).trans hsize)
    rw [show y + (n + 1) = y + 1 + n by omega]
    exact this

theorem fillRows_getD_of_le {n y : Nat} {t : Array Nat} {j : Nat} (hj : (y + n + 1) * (w + 1) ≤ j) :
    (fillRows level w n y t).getD j 0 = t.getD j 0 := by
  induction n generalizing y t with
  | zero => rfl
  | succ n ih =>
    have hrow : (y + 2) * (w + 1) ≤ j := (Nat.mul_le_mul_right _ (by omega)).trans hj
    have hnext : (y + 2) * (w + 1) = (y + 1) * (w + 1) + (w + 1) := Nat.succ_mul _ _
    rw [fillRows, ih ((Nat.le_of_eq (by congr 1; omega)).trans hj), fillRow_getD_of_ne (by omega),
      getD_setIfInBounds_ne (by omega)]

/-- **A table with columns holds the corners of its frame**, whatever it was written over. -/
theorem fill_sumsTo (level : Nat → Nat) (hw : w ≠ 0) (h : Nat) (t : Array Nat) :
    SumsTo level w h (fill level w h t) := by
  have hstart : SumsTo level w 0 (zero (w + 1) 0 (grow ((w + 1) * (h + 1)) t)) := by
    intro y hy x hx
    obtain rfl : y = 0 := by omega
    rw [zero_getD, if_pos (by omega), corner_zero_right]
  have hsize : (0 + h + 1) * (w + 1) ≤ (zero (w + 1) 0 (grow ((w + 1) * (h + 1)) t)).size := by
    rw [size_zero, grow, Array.size_append, Array.size_replicate, Nat.zero_add, Nat.mul_comm]
    omega
  have := fillRows_sumsTo hstart hsize
  rw [Nat.zero_add] at this
  simpa only [fill, if_neg hw] using this

theorem fill_getD_of_le {h : Nat} {t : Array Nat} {j : Nat} (hj : (w + 1) * (h + 1) ≤ j) :
    (fill level w h t).getD j 0 = t.getD j 0 := by
  have hrow : w + 1 ≤ (w + 1) * (h + 1) := Nat.le_mul_of_pos_right _ (by omega)
  have htop : (zero (w + 1) 0 (grow ((w + 1) * (h + 1)) t)).getD j 0 = t.getD j 0 := by
    rw [zero_getD, if_neg (by omega), grow_getD]
  unfold fill
  split
  · exact htop
  · rw [fillRows_getD_of_le (by rwa [Nat.zero_add, Nat.mul_comm]), htop]

/-- A bound on the entries of the old table and on the sums of the new frame holds of the new
table. -/
theorem fill_getD_le {h B : Nat} {t : Array Nat} (hlevel : ∀ i, level i ≤ 255)
    (hframe : 255 * (w * h) ≤ B) (ht : ∀ j, t.getD j 0 ≤ B) (j : Nat) :
    (fill level w h t).getD j 0 ≤ B := by
  by_cases hj : (w + 1) * (h + 1) ≤ j
  · rw [fill_getD_of_le hj]; exact ht j
  by_cases hw : w = 0
  · -- without columns only zeros are written
    simp only [fill, if_pos hw]
    rw [zero_getD, grow_getD]
    split
    · exact Nat.zero_le B
    · exact ht j
  · -- an entry of the frame is a corner
    have hy : j / (w + 1) ≤ h := by
      have := Nat.div_lt_of_lt_mul (Nat.not_le.1 hj)
      omega
    have hx : j % (w + 1) ≤ w := by
      have := Nat.mod_lt j (show 0 < w + 1 by omega)
      omega
    have hentry := fill_sumsTo level hw h t _ hy _ hx
    rw [Nat.mul_comm, Nat.div_add_mod] at hentry
    rw [hentry]
    exact (corner_le hlevel hx hy).trans hframe

end SumTable

end GlyphMosaic
