import Mathlib.Data.Int.Log
import Mathlib.Tactic

/-!
# Rounding to a binary floating-point format

A result of floating-point arithmetic is the exact rational result rounded to the precision
of the format, to nearest with ties to even. The exponent is not bounded here, so results
beyond the range of a format, and those below its smallest normal number, are outside the
scope. `round_error` is the usual bound by half a unit in the last place, relative to the
exact result.
-/
namespace Starry.Foundation.FloatingPoint

def nearestEven (x : ℚ) : ℤ :=
  if x - ⌊x⌋ < 1 / 2 then ⌊x⌋
  else if 1 / 2 < x - ⌊x⌋ then ⌊x⌋ + 1
  else if ⌊x⌋ % 2 = 0 then ⌊x⌋
  else ⌊x⌋ + 1

/-- The distance between neighbours of the format around `x`. -/
def ulp (precision : ℕ) (x : ℚ) : ℚ := 2 ^ (Int.log 2 |x| + 1 - precision)

def round (precision : ℕ) (x : ℚ) : ℚ := nearestEven (x / ulp precision x) * ulp precision x

/-- The conversion to an integer type: towards zero. -/
def truncate (x : ℚ) : ℤ := if x < 0 then ⌈x⌉ else ⌊x⌋

/-- Rounding moves a number by half a unit at most. -/
theorem nearestEven_error (x : ℚ) : |(nearestEven x : ℚ) - x| ≤ 1 / 2 := by
  have below := Int.floor_le x
  have above := Int.lt_floor_add_one x
  rw [abs_le]
  unfold nearestEven
  split
  · constructor <;> linarith
  · split
    · push_cast
      constructor <;> linarith
    · split
      · constructor <;> linarith
      · push_cast
        constructor <;> linarith

theorem ulp_pos (precision : ℕ) (x : ℚ) : 0 < ulp precision x := by
  unfold ulp
  positivity

/-- Half a unit in the last place, relative to a number that is not zero. -/
theorem half_ulp_le (precision : ℕ) {x : ℚ} (nonzero : x ≠ 0) :
    ulp precision x / 2 ≤ |x| / 2 ^ precision := by
  have power : (2 : ℚ) ^ Int.log 2 |x| ≤ |x| :=
    Int.zpow_log_le_self (by decide) (abs_pos.mpr nonzero)
  have split : ulp precision x / 2 = 2 ^ Int.log 2 |x| / 2 ^ precision := by
    unfold ulp
    rw [zpow_sub₀ two_ne_zero, zpow_add₀ two_ne_zero, zpow_one, zpow_natCast]
    ring
  rw [split]
  gcongr

theorem round_error (precision : ℕ) (x : ℚ) : |round precision x - x| ≤ |x| / 2 ^ precision := by
  by_cases zero : x = 0
  · subst zero
    simp [round, nearestEven]
  · have positive := ulp_pos precision x
    have scaled : round precision x - x =
        (nearestEven (x / ulp precision x) - x / ulp precision x) * ulp precision x := by
      rw [round, sub_mul, div_mul_cancel₀ x positive.ne']
    calc |round precision x - x|
        = |(nearestEven (x / ulp precision x) : ℚ) - x / ulp precision x| * ulp precision x := by
          rw [scaled, abs_mul, abs_of_pos positive]
      _ ≤ 1 / 2 * ulp precision x := by
          gcongr
          exact nearestEven_error _
      _ = ulp precision x / 2 := by ring
      _ ≤ |x| / 2 ^ precision := half_ulp_le precision zero

/-- Rounding moves a number by no more than half of it. -/
theorem round_bounds {precision : ℕ} (some : 0 < precision) {x : ℚ} (nonneg : 0 ≤ x) :
    x / 2 ≤ round precision x ∧ round precision x ≤ 3 / 2 * x := by
  have error := round_error precision x
  have two : (2 : ℚ) ≤ 2 ^ precision := by
    calc (2 : ℚ) = 2 ^ 1 := (pow_one 2).symm
      _ ≤ 2 ^ precision := pow_le_pow_right₀ one_le_two some
  have half : |x| / 2 ^ precision ≤ x / 2 := by
    rw [abs_of_nonneg nonneg]
    gcongr
  obtain ⟨below, above⟩ := abs_le.mp (error.trans half)
  constructor <;> linarith

/-- Truncation towards zero goes down from a number that is not negative. -/
theorem truncate_le {x : ℚ} (nonneg : 0 ≤ x) : (truncate x : ℚ) ≤ x := by
  rw [truncate, if_neg (not_lt.mpr nonneg)]
  exact Int.floor_le x

theorem lt_truncate {x : ℚ} (nonneg : 0 ≤ x) : x - 1 < truncate x := by
  rw [truncate, if_neg (not_lt.mpr nonneg)]
  exact Int.sub_one_lt_floor x

end Starry.Foundation.FloatingPoint
