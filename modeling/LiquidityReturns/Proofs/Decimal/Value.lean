import Mathlib
import LiquidityReturns.Decimal.Arithmetic

namespace LiquidityReturns

/-!
# Decimal numbers and their values

A decimal number is in lowest terms, so its value determines it.  Statements
about arithmetic can therefore speak of values, and come back to numbers by
`Decimal.value_injective`.
-/

namespace Decimal

/-- Reduction to lowest terms keeps the value. -/
theorem value_reduce
    (coefficient : Int)
    (coefficient_le : coefficient.natAbs ≤ maxCoefficient)
    (scale : Nat)
    (scale_le : scale ≤ maxScale) :
    (reduce coefficient coefficient_le scale scale_le).value =
      (coefficient : ℚ) / 10 ^ scale := by
  induction scale generalizing coefficient with
  | zero =>
      rfl
  | succ scale inductionHypothesis =>
      unfold reduce
      split
      · rename_i divisible
        obtain ⟨quotient, shape⟩ := Int.dvd_of_emod_eq_zero divisible
        rw [inductionHypothesis, shape, Int.mul_ediv_cancel_left _ (by decide)]
        push_cast
        rw [pow_succ]
        field_simp
      · rfl

/--
Of two numbers of the same value, the one with fewer fractional digits has
exactly as many as the other.
-/
private theorem scale_le_of_value_eq
    {left right : Decimal}
    (same : left.value = right.value)
    (shorter : left.scale ≤ right.scale) :
    right.scale ≤ left.scale := by
  obtain ⟨difference, scaleShape⟩ := Nat.exists_eq_add_of_le shorter
  have coefficients :
      right.coefficient = left.coefficient * 10 ^ difference := by
    have leftPower : (10 : ℚ) ^ left.scale ≠ 0 := by
      positivity
    have differencePower : (10 : ℚ) ^ difference ≠ 0 := by
      positivity
    unfold value at same
    rw [scaleShape, pow_add] at same
    field_simp at same
    exact_mod_cast same.symm
  cases difference with
  | zero =>
      omega
  | succ more =>
      rcases right.lowest with noFraction | notDivisible
      · omega
      · have divisible : right.coefficient % 10 = 0 := by
          rw [coefficients, pow_succ, ← mul_assoc]
          exact Int.mul_emod_left _ _
        exact (notDivisible divisible).elim

/-- Numbers of the same value are the same. -/
theorem value_injective : Function.Injective value := by
  intro left right same
  have scales : left.scale = right.scale := by
    rcases Nat.le_total left.scale right.scale with shorter | shorter
    · exact Nat.le_antisymm shorter (scale_le_of_value_eq same shorter)
    · exact
        Nat.le_antisymm (scale_le_of_value_eq same.symm shorter) shorter
  have power : (10 : ℚ) ^ right.scale ≠ 0 := by
    positivity
  have coefficients : left.coefficient = right.coefficient := by
    unfold value at same
    rw [scales] at same
    field_simp at same
    exact_mod_cast same
  cases left
  cases right
  simp_all

/-- Two numbers are the same exactly when their values are. -/
theorem eq_iff_value_eq {left right : Decimal} :
    left = right ↔ left.value = right.value :=
  ⟨congrArg value, fun same => value_injective same⟩

@[simp] theorem value_zero : zero.value = 0 := by
  simp [value, zero]

@[simp] theorem value_one : one.value = 1 := by
  simp [value, one]

@[simp] theorem value_hundred : hundred.value = 100 := by
  simp [value, hundred]

/-- A number is zero exactly when its value is. -/
theorem isZero_iff_value (number : Decimal) :
    number.isZero = true ↔ number.value = 0 := by
  have power : (10 : ℚ) ^ number.scale ≠ 0 := by
    positivity
  rw [isZero_iff]
  unfold value
  rw [div_eq_zero_iff]
  simp [power]

theorem isZero_eq_false_iff (number : Decimal) :
    number.isZero = false ↔ number.value ≠ 0 := by
  rw [Bool.eq_false_iff, ne_eq, isZero_iff_value]

theorem isZero_iff_eq_zero (number : Decimal) :
    number.isZero = true ↔ number = zero := by
  rw [isZero_iff_value, eq_iff_value_eq, value_zero]

/-- A magnitude is at most the largest coefficient at its scale. -/
theorem abs_value_le_at_scale (number : Decimal) :
    |number.value| ≤ (maxCoefficient : ℚ) / 10 ^ number.scale := by
  have bounded : |(number.coefficient : ℚ)| ≤ (maxCoefficient : ℚ) := by
    have bounded := number.coefficient_le
    rw [← Int.cast_abs, Int.abs_eq_natAbs]
    exact_mod_cast bounded
  unfold value
  rw [abs_div, abs_of_pos (show (0 : ℚ) < 10 ^ number.scale by positivity)]
  gcongr

/-- A magnitude is at most the largest coefficient. -/
theorem abs_value_le_maxCoefficient (number : Decimal) :
    |number.value| ≤ (maxCoefficient : ℚ) :=
  number.abs_value_le_at_scale.trans
    (div_le_self (Nat.cast_nonneg _) (one_le_pow₀ (by norm_num)))

end Decimal

end LiquidityReturns
