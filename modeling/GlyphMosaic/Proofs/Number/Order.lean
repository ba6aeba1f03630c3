import GlyphMosaic.Number.Binary
import Mathlib.Order.Monotone.Basic

/-!
# The order of single-precision numbers

The order is read off the bits.  It is that of the numbers that the bits stand for.

* `BinaryFormat.units?` : a finite number as a multiple of the least positive one.
* `Binary32.units_strictMono` : a greater magnitude has more units.
* `Binary32.units?_decode` : the units of the bits of a finite number.
* `Binary32.lt_iff_units` : **one finite number is below another exactly if it has fewer units**.
-/

namespace GlyphMosaic

/-- A finite number in units of the least positive one. -/
def BinaryFormat.units? (f : BinaryFormat) : BinaryValue → Option Int
  | .finite negative significand exponent =>
    let n : Int := significand * 2 ^ (exponent - f.leastExponent).toNat
    some (if negative then -n else n)
  | _ => none

namespace Binary32

/-- The units of a magnitude. -/
def unitsOf (magnitude : Nat) : Nat :=
  if magnitude / 2 ^ 23 = 0 then magnitude
  else (2 ^ 23 + magnitude % 2 ^ 23) * 2 ^ (magnitude / 2 ^ 23 - 1)

theorem unitsOf_lt_succ (m : Nat) : unitsOf m < unitsOf (m + 1) := by
  unfold unitsOf
  by_cases hlast : m % 2 ^ 23 = 2 ^ 23 - 1
  · -- the fraction is full, so that the exponent field grows
    have hfraction : (m + 1) % 2 ^ 23 = 0 := by omega
    have hexponent : (m + 1) / 2 ^ 23 = m / 2 ^ 23 + 1 := by omega
    rw [hfraction, hexponent, if_neg (Nat.succ_ne_zero _), Nat.add_sub_cancel]
    split
    · rename_i hzero
      rw [hzero]
      omega
    · rename_i hpos
      rw [hlast]
      generalize m / 2 ^ 23 = e at hpos ⊢
      obtain ⟨e, rfl⟩ := Nat.exists_eq_succ_of_ne_zero hpos
      rw [Nat.succ_eq_add_one, Nat.add_sub_cancel, Nat.pow_succ]
      have hweight := Nat.two_pow_pos e
      omega
  · have hfraction : (m + 1) % 2 ^ 23 = m % 2 ^ 23 + 1 := by omega
    have hexponent : (m + 1) / 2 ^ 23 = m / 2 ^ 23 := by omega
    rw [hfraction, hexponent]
    split
    · omega
    · exact Nat.mul_lt_mul_of_pos_right (by omega) (Nat.two_pow_pos _)

theorem units_strictMono : StrictMono unitsOf := strictMono_nat_of_lt_succ unitsOf_lt_succ

/-- The units of a number, with its sign. -/
def units (x : Binary32) : Int :=
  if x.negative then -(unitsOf x.magnitude : Int) else unitsOf x.magnitude

variable {x y : Binary32}

theorem magnitude_lt (hx : x.isFinite) : x.magnitude < (2 ^ 8 - 1) * 2 ^ 23 := of_decide_eq_true hx

theorem decode_of_isFinite (hx : x.isFinite) : BinaryFormat.single.decode x.bits.toNat =
    if x.magnitude / 2 ^ 23 = 0 then
      .finite x.negative (x.magnitude % 2 ^ 23) BinaryFormat.single.leastExponent
    else
      .finite x.negative (2 ^ 23 + x.magnitude % 2 ^ 23)
        (BinaryFormat.single.leastExponent + (x.magnitude / 2 ^ 23 - 1 : Nat)) := by
  have hbits := x.bits.toNat_lt
  have hfinite := magnitude_lt hx
  have hsign : (x.bits.toNat / 2 ^ 31 % 2 == 1) = x.negative := by
    rw [negative, Bool.eq_iff_iff, beq_iff_eq, decide_eq_true_eq]
    omega
  have hexponent : x.bits.toNat / 2 ^ 23 % 2 ^ 8 = x.magnitude / 2 ^ 23 := by
    unfold magnitude
    omega
  have hfraction : x.bits.toNat % 2 ^ 23 = x.magnitude % 2 ^ 23 := by
    unfold magnitude
    omega
  have hnotfull : x.magnitude / 2 ^ 23 ≠ 2 ^ 8 - 1 := by omega
  rw [← hsign, ← hfraction, ← hexponent]
  rw [← hexponent] at hnotfull
  exact if_neg hnotfull

theorem units?_decode (hx : x.isFinite) :
    BinaryFormat.single.units? (BinaryFormat.single.decode x.bits.toNat) = some x.units := by
  rw [decode_of_isFinite hx, units, unitsOf]
  split
  · have hsmall : x.magnitude % 2 ^ 23 = x.magnitude := by omega
    rw [hsmall]
    simp [BinaryFormat.units?]
  · have hshift (n : Nat) : (BinaryFormat.single.leastExponent + (n : Int) -
        BinaryFormat.single.leastExponent).toNat = n := by omega
    simp only [BinaryFormat.units?, hshift, Int.natCast_mul, Int.natCast_pow]
    rfl

theorem isNaN_of_isFinite (hx : x.isFinite) : x.isNaN = false :=
  decide_eq_false (Nat.not_lt.2 (Nat.le_of_lt (of_decide_eq_true hx)))

/-- **One finite number is below another exactly if it has fewer units.** -/
theorem lt_iff_units (hx : x.isFinite) (hy : y.isFinite) : x.lt y = true ↔ x.units < y.units := by
  have hless (a b : Nat) : unitsOf a < unitsOf b ↔ a < b := units_strictMono.lt_iff_lt
  have hzero : unitsOf 0 = 0 := rfl
  have hxy := hless x.magnitude y.magnitude
  have hyx := hless y.magnitude x.magnitude
  -- both zeros have no units, and are on neither side of each other
  have hx₀ := hless 0 x.magnitude
  have hy₀ := hless 0 y.magnitude
  have hlt : x.lt y = decide (x.rank < y.rank) := by
    rw [lt, isNaN_of_isFinite hx, isNaN_of_isFinite hy]
    rfl
  rw [hlt, decide_eq_true_eq]
  unfold rank units
  split <;> split <;> omega

end Binary32

end GlyphMosaic
