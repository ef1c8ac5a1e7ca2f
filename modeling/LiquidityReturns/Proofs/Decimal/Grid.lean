import Mathlib
import LiquidityReturns.Proofs.Decimal.Rounding

namespace LiquidityReturns

/-!
# Numbers with few fractional digits

Decimal numbers, their sums and their differences have at most 28 fractional
digits.  Rounding such a number drops digits only if it is large, so the error
is relative to the number, however small it is.
-/

namespace Decimal

/-- A number with at most 28 fractional digits, of any magnitude. -/
def OnGrid (number : ℚ) : Prop :=
  ∃ integer : ℤ, number = (integer : ℚ) / 10 ^ maxScale

theorem onGrid_value (number : Decimal) : OnGrid number.value := by
  obtain ⟨missing, shape⟩ := Nat.exists_eq_add_of_le number.scale_le
  refine ⟨number.coefficient * 10 ^ missing, ?_⟩
  have power : (10 : ℚ) ^ missing ≠ 0 := by
    positivity
  rw [shape, pow_add]
  push_cast
  rw [mul_div_mul_right _ _ power]
  rfl

theorem onGrid_intCast (integer : ℤ) : OnGrid integer := by
  have power : (10 : ℚ) ^ maxScale ≠ 0 := by
    positivity
  refine ⟨integer * 10 ^ maxScale, ?_⟩
  push_cast
  rw [mul_div_cancel_right₀ _ power]

theorem OnGrid.add
    {left right : ℚ}
    (leftOnGrid : OnGrid left)
    (rightOnGrid : OnGrid right) :
    OnGrid (left + right) := by
  obtain ⟨leftInteger, rfl⟩ := leftOnGrid
  obtain ⟨rightInteger, rfl⟩ := rightOnGrid
  refine ⟨leftInteger + rightInteger, ?_⟩
  push_cast
  rw [add_div]

theorem OnGrid.sub
    {left right : ℚ}
    (leftOnGrid : OnGrid left)
    (rightOnGrid : OnGrid right) :
    OnGrid (left - right) := by
  obtain ⟨leftInteger, rfl⟩ := leftOnGrid
  obtain ⟨rightInteger, rfl⟩ := rightOnGrid
  refine ⟨leftInteger - rightInteger, ?_⟩
  push_cast
  rw [sub_div]

/--
Rounding a number on the grid moves it by at most one part in `10 ^ 28` of
itself.
-/
theorem OnGrid.abs_value_sub_le
    {exact : ℚ}
    (onGrid : OnGrid exact)
    {number : Decimal}
    (found : nearest? exact = some number) :
    |number.value - exact| ≤ |exact| / 10 ^ 28 := by
  obtain ⟨scale, rounded⟩ := rounded_spec found
  rcases Nat.lt_or_ge scale maxScale with coarse | finest
  · exact rounded.abs_sub_le.trans (rounded.halfUnit_le coarse)
  · -- All digits were kept.
    have same : scale = maxScale :=
      Nat.le_antisymm rounded.scale_le finest
    obtain ⟨integer, shape⟩ := onGrid
    have power : (10 : ℚ) ^ maxScale ≠ 0 := by
      positivity
    have kept : number.value = exact := by
      rw [rounded.value_eq, same, shape, div_mul_cancel₀ _ power,
        roundHalfEven_intCast]
    rw [kept, sub_self, abs_zero]
    positivity

end Decimal

end LiquidityReturns
