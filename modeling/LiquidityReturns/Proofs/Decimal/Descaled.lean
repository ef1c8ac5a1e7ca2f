import Mathlib
import LiquidityReturns.Proofs.Decimal.Monotone

namespace LiquidityReturns.Decimal

/-!
# Ledger amounts in whole coins

Taking a ledger amount down to whole coins moves its point by eight places.
The product cannot be too large.  There is a place for every digit of an amount
with at most twenty fractional digits; any other amount is short enough for all
28 places, so that at most half a unit of the last one is lost.
-/

/--
Twenty, the largest number of fractional digits with which an amount is taken
down exactly.
-/
def exactScale : ℕ :=
  maxScale - ledgerScale

theorem value_ledgerUnit : ledgerUnit.value = 1 / 10 ^ 8 := by
  simp [value, ledgerUnit, ledgerScale]

/-- The product with the ledger unit is never too large. -/
theorem mul?_ledgerUnit (number : Decimal) :
    number.mul? ledgerUnit = some number.descaled := by
  have bounded :
      |number.value * ledgerUnit.value| ≤ (maxCoefficient : ℚ) := by
    rw [value_ledgerUnit, abs_mul]
    have magnitude := number.abs_value_le_maxCoefficient
    norm_num
    linarith [abs_nonneg number.value]
  obtain ⟨product, found⟩ := exists_nearest? bounded
  unfold descaled mul?
  rw [found, Option.getD_some]

/-- An amount is taken down by one rounding. -/
theorem nearest?_descaled (number : Decimal) :
    nearest? (number.value / 10 ^ 8) = some number.descaled := by
  rw [← mul?_ledgerUnit, mul?, value_ledgerUnit, mul_one_div]

/-- An amount with at most twenty fractional digits is taken down exactly. -/
theorem value_descaled
    {number : Decimal}
    (few : number.scale ≤ exactScale) :
    number.descaled.value = number.value / 10 ^ 8 := by
  have room : number.scale + 8 ≤ maxScale := by
    unfold exactScale maxScale ledgerScale at few
    unfold maxScale
    omega
  have shape :
      number.value / 10 ^ 8 =
        (number.coefficient : ℚ) / 10 ^ (number.scale + 8) := by
    rw [pow_add, ← div_div]
    rfl
  obtain ⟨kept, found, value⟩ :=
    nearest?_of_fits room number.coefficient_le shape
  cases found.symm.trans number.nearest?_descaled
  exact value

/--
An amount with more than twenty fractional digits is short enough for 28
places.
-/
theorem descaled_fits
    {number : Decimal}
    (many : exactScale < number.scale) :
    |number.value / 10 ^ 8| * 10 ^ maxScale ≤ (maxCoefficient : ℚ) := by
  have power : (0 : ℚ) < 10 ^ number.scale := by
    positivity
  calc
    |number.value / 10 ^ 8| * 10 ^ maxScale =
        |number.value| * 10 ^ exactScale := by
      rw [abs_div, abs_of_pos (show (0 : ℚ) < 10 ^ 8 by positivity)]
      norm_num [maxScale, exactScale, ledgerScale]
      ring
    _ ≤ |number.value| * 10 ^ number.scale := by
      gcongr
      norm_num
    _ ≤ (maxCoefficient : ℚ) :=
      (le_div_iff₀ power).mp number.abs_value_le_at_scale

/-- Taking an amount down loses at most half a unit of the last of 28 places. -/
theorem abs_descaled_sub_le (number : Decimal) :
    |number.descaled.value - number.value / 10 ^ 8| ≤ 1 / 2 / 10 ^ 28 := by
  rcases Nat.lt_or_ge exactScale number.scale with many | few
  · obtain ⟨scale, rounded⟩ := rounded_spec number.nearest?_descaled
    have near := rounded.abs_sub_le
    rwa [rounded.scale_eq_of_fits (descaled_fits many)] at near
  · rw [value_descaled few, sub_self, abs_zero]
    positivity

/-- A natural bound of an amount of ledger units is one of whole coins. -/
theorem abs_descaled_le
    {number : Decimal}
    {bound : ℕ}
    (bounded : |number.value| ≤ bound * 10 ^ 8) :
    |number.descaled.value| ≤ bound := by
  apply abs_value_le number.nearest?_descaled
  rw [abs_div, abs_of_pos (show (0 : ℚ) < 10 ^ 8 by norm_num)]
  exact (div_le_iff₀ (by norm_num)).mpr bounded

/-- What is at least one unit of the ledger is at least that in whole coins. -/
theorem unit_le_abs_descaled
    {number : Decimal}
    (one_le : 1 ≤ |number.value|) :
    1 / 10 ^ 8 ≤ |number.descaled.value| := by
  rcases le_abs.mp one_le with positive | negative
  · have reached : ledgerUnit.value ≤ number.descaled.value :=
      le_value_of_nearest? number.nearest?_descaled
        (by rw [value_ledgerUnit]; gcongr)
    rw [value_ledgerUnit] at reached
    exact reached.trans (le_abs_self _)
  · have reached : number.descaled.value ≤ ledgerUnit.neg.value :=
      value_le_of_nearest? number.nearest?_descaled
        (by rw [value_neg, value_ledgerUnit]; linarith)
    rw [value_neg, value_ledgerUnit] at reached
    exact (le_neg_of_le_neg reached).trans (neg_le_abs _)

/-- Nothing stays nothing. -/
@[simp] theorem descaled_zero : zero.descaled = zero := by
  apply value_injective
  rw [value_descaled (Nat.zero_le _), value_zero, zero_div]

end LiquidityReturns.Decimal
