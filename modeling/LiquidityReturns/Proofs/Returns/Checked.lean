import Mathlib
import LiquidityReturns.Proofs.Decimal.Grid
import LiquidityReturns.Proofs.Outcome
import LiquidityReturns.Returns.Checked

namespace LiquidityReturns

/-!
# Checked arithmetic in exact values

Each checked operation rounds one exact rational result.  Sums, differences
and products fail only by overflow; a quotient fails otherwise only when a
number other than zero is divided by zero.
-/

namespace Checked

/-- A result that is too large is the only one that overflows. -/
theorem orOverflow_eq_ok_iff
    {result : Option α}
    {value : α} :
    orOverflow result = .ok value ↔ result = some value := by
  cases result <;> simp [orOverflow]

theorem eq_overflow_of_orOverflow
    {result : Option α}
    {failure : ArithmeticError}
    (failed : orOverflow result = .error failure) :
    failure = .overflow := by
  cases result with
  | none =>
      simpa [orOverflow, eq_comm] using failed
  | some value =>
      simp [orOverflow] at failed

theorem orOverflow_ne_divisionByZero (result : Option α) :
    orOverflow result ≠ .error .divisionByZero := by
  intro failed
  cases eq_overflow_of_orOverflow failed

theorem add_ne_divisionByZero (left right : Decimal) :
    add left right ≠ .error .divisionByZero :=
  orOverflow_ne_divisionByZero _

theorem mul_ne_divisionByZero (left right : Decimal) :
    mul left right ≠ .error .divisionByZero :=
  orOverflow_ne_divisionByZero _

/-- A sum is the rounded exact sum. -/
theorem add_eq_ok_iff {left right sum : Decimal} :
    add left right = .ok sum ↔
      Decimal.nearest? (left.value + right.value) = some sum :=
  orOverflow_eq_ok_iff

/-- A difference is the rounded exact difference. -/
theorem sub_eq_ok_iff {left right difference : Decimal} :
    sub left right = .ok difference ↔
      Decimal.nearest? (left.value - right.value) = some difference :=
  orOverflow_eq_ok_iff

/-- A product is the rounded exact product. -/
theorem mul_eq_ok_iff {left right product : Decimal} :
    mul left right = .ok product ↔
      Decimal.nearest? (left.value * right.value) = some product :=
  orOverflow_eq_ok_iff

/-- A quotient by a number other than zero is the rounded exact quotient. -/
theorem div_eq_ok_iff
    {left right quotient : Decimal}
    (divisor : right.isZero = false) :
    div left right = .ok quotient ↔
      Decimal.nearest? (left.value / right.value) = some quotient := by
  unfold div
  split
  · rename_i numerator
    have kept := Decimal.nearest?_value Decimal.zero
    rw [(left.isZero_iff_value).mp numerator, zero_div,
      ← Decimal.value_zero, kept]
    simp
  · simp [divisor, orOverflow_eq_ok_iff, Decimal.div?]

/-- Only a zero divisor below a number other than zero is a division by zero. -/
theorem div_eq_divisionByZero_iff {left right : Decimal} :
    div left right = .error .divisionByZero ↔
      left.isZero = false ∧ right.isZero = true := by
  unfold div
  cases left.isZero <;> cases right.isZero <;>
    simp [orOverflow, Decimal.div?]
  split <;> simp

/-- A result that a number represents is exact. -/
theorem add_of_value_eq
    {left right sum : Decimal}
    (exact : sum.value = left.value + right.value) :
    add left right = .ok sum := by
  rw [add_eq_ok_iff, ← exact, Decimal.nearest?_value]

theorem sub_of_value_eq
    {left right difference : Decimal}
    (exact : difference.value = left.value - right.value) :
    sub left right = .ok difference := by
  rw [sub_eq_ok_iff, ← exact, Decimal.nearest?_value]

theorem mul_of_value_eq
    {left right product : Decimal}
    (exact : product.value = left.value * right.value) :
    mul left right = .ok product := by
  rw [mul_eq_ok_iff, ← exact, Decimal.nearest?_value]

theorem div_of_value_eq
    {left right quotient : Decimal}
    (divisor : right.isZero = false)
    (exact : quotient.value = left.value / right.value) :
    div left right = .ok quotient := by
  rw [div_eq_ok_iff divisor, ← exact, Decimal.nearest?_value]

/-- A sum is off by at most one part in `10 ^ 28` of the exact sum. -/
theorem abs_sum_sub_le
    {left right sum : Decimal}
    (added : add left right = .ok sum) :
    |sum.value - (left.value + right.value)| ≤
      |left.value + right.value| / 10 ^ 28 :=
  (left.onGrid_value.add right.onGrid_value).abs_value_sub_le
    (add_eq_ok_iff.mp added)

/--
A difference is off by at most one part in `10 ^ 28` of the exact difference.
-/
theorem abs_difference_sub_le
    {left right difference : Decimal}
    (subtracted : sub left right = .ok difference) :
    |difference.value - (left.value - right.value)| ≤
      |left.value - right.value| / 10 ^ 28 :=
  (left.onGrid_value.sub right.onGrid_value).abs_value_sub_le
    (sub_eq_ok_iff.mp subtracted)

/--
A product is off by half a unit of the 28th place and two thirds of one part in
`10 ^ 28`, at most.
-/
theorem abs_product_sub_le
    {left right product : Decimal}
    (multiplied : mul left right = .ok product) :
    |product.value - left.value * right.value| ≤
      (1 / 2 + 2 / 3 * |left.value * right.value|) / 10 ^ 28 :=
  Decimal.abs_value_sub_le_add (mul_eq_ok_iff.mp multiplied)

/--
A quotient is off by half a unit of the 28th place and two thirds of one part
in `10 ^ 28`, at most.
-/
theorem abs_quotient_sub_le
    {left right quotient : Decimal}
    (divisor : right.isZero = false)
    (divided : div left right = .ok quotient) :
    |quotient.value - left.value / right.value| ≤
      (1 / 2 + 2 / 3 * |left.value / right.value|) / 10 ^ 28 :=
  Decimal.abs_value_sub_le_add ((div_eq_ok_iff divisor).mp divided)

/--
A sum of numbers that are near exact ones is near the exact sum: the errors
add up, and the rounding adds one part in `10 ^ 28` of what is rounded.
-/
theorem abs_sum_sub_le_of_near
    {left right sum : Decimal}
    {leftExact rightExact leftError rightError : ℚ}
    (added : add left right = .ok sum)
    (leftNear : |left.value - leftExact| ≤ leftError)
    (rightNear : |right.value - rightExact| ≤ rightError) :
    |sum.value - (leftExact + rightExact)| ≤
      leftError + rightError +
        (|leftExact + rightExact| + leftError + rightError) / 10 ^ 28 := by
  have rounded := abs_sum_sub_le added
  have near :
      |left.value + right.value - (leftExact + rightExact)| ≤
        leftError + rightError := by
    rw [add_sub_add_comm]
    exact (abs_add_le _ _).trans (add_le_add leftNear rightNear)
  have size :
      |left.value + right.value| ≤
        |leftExact + rightExact| + leftError + rightError := by
    have triangle :=
      abs_sub_abs_le_abs_sub (left.value + right.value)
        (leftExact + rightExact)
    linarith
  have triangle :=
    abs_sub_le sum.value (left.value + right.value)
      (leftExact + rightExact)
  linarith

section Bounded

variable
  {left right : Decimal}
  {leftBound rightBound : ℕ}

/--
Numbers within bounds have a sum within the sum of the bounds, if that fits a
coefficient.
-/
theorem exists_add_le
    (left_le : |left.value| ≤ leftBound)
    (right_le : |right.value| ≤ rightBound)
    (fits : leftBound + rightBound ≤ Decimal.maxCoefficient) :
    ∃ sum,
      add left right = .ok sum ∧
        |sum.value| ≤ (leftBound + rightBound : ℕ) := by
  have bounded :
      |left.value + right.value| ≤ (leftBound + rightBound : ℕ) := by
    push_cast
    exact (abs_add_le _ _).trans (add_le_add left_le right_le)
  obtain ⟨sum, found, sum_le⟩ := Decimal.exists_nearest?_le bounded fits
  exact ⟨sum, add_eq_ok_iff.mpr found, sum_le⟩

/--
Numbers within bounds have a difference within the sum of the bounds, if that
fits a coefficient.
-/
theorem exists_sub_le
    (left_le : |left.value| ≤ leftBound)
    (right_le : |right.value| ≤ rightBound)
    (fits : leftBound + rightBound ≤ Decimal.maxCoefficient) :
    ∃ difference,
      sub left right = .ok difference ∧
        |difference.value| ≤ (leftBound + rightBound : ℕ) := by
  have bounded :
      |left.value - right.value| ≤ (leftBound + rightBound : ℕ) := by
    push_cast
    exact (abs_sub _ _).trans (add_le_add left_le right_le)
  obtain ⟨difference, found, difference_le⟩ :=
    Decimal.exists_nearest?_le bounded fits
  exact ⟨difference, sub_eq_ok_iff.mpr found, difference_le⟩

/--
Numbers within bounds have a product within the product of the bounds, if that
fits a coefficient.
-/
theorem exists_mul_le
    (left_le : |left.value| ≤ leftBound)
    (right_le : |right.value| ≤ rightBound)
    (fits : leftBound * rightBound ≤ Decimal.maxCoefficient) :
    ∃ product,
      mul left right = .ok product ∧
        |product.value| ≤ (leftBound * rightBound : ℕ) := by
  have bounded :
      |left.value * right.value| ≤ (leftBound * rightBound : ℕ) := by
    rw [abs_mul]
    push_cast
    gcongr
  obtain ⟨product, found, product_le⟩ :=
    Decimal.exists_nearest?_le bounded fits
  exact ⟨product, mul_eq_ok_iff.mpr found, product_le⟩

end Bounded

/--
A natural number is a number when it fits a coefficient, and keeps its value.
-/
theorem ofNat_eq_ok_iff {natural : ℕ} {number : Decimal} :
    ofNat natural = .ok number ↔
      natural ≤ Decimal.maxCoefficient ∧ number.value = natural := by
  unfold ofNat Decimal.ofNat? Decimal.ofInt?
  by_cases fits : natural ≤ Decimal.maxCoefficient
  · simp [fits, orOverflow, Decimal.eq_iff_value_eq, Decimal.value, eq_comm]
  · simp [fits, orOverflow]

/-- A natural number that fits a coefficient is a number. -/
theorem exists_ofNat
    {natural : ℕ}
    (fits : natural ≤ Decimal.maxCoefficient) :
    ∃ number, ofNat natural = .ok number ∧ number.value = natural := by
  have found :
      ofNat natural =
        .ok ⟨natural, 0, by simpa using fits, Nat.zero_le _, .inl rfl⟩ := by
    simp [ofNat, Decimal.ofNat?, Decimal.ofInt?, fits, orOverflow]
  exact ⟨_, found, (ofNat_eq_ok_iff.mp found).2⟩

/-- A share divides by zero exactly when some units are claimed of none. -/
theorem proRata_eq_divisionByZero_iff {units depth total : WholeAmount} :
    proRata units depth total = .error .divisionByZero ↔
      units.val ≠ 0 ∧ total.val = 0 := by
  constructor
  · intro failed
    unfold proRata at failed
    split at failed
    · cases failed
    · rename_i claimed
      refine ⟨claimed, ?_⟩
      by_contra issued
      rw [if_neg issued] at failed
      dsimp only at failed
      split at failed
      · simp only [Outcome.bind_eq_error_iff] at failed
        rcases failed with
          stop |
            ⟨_, _, stop | ⟨_, _, stop | ⟨divisor, found, failed⟩⟩⟩
        · exact orOverflow_ne_divisionByZero _ stop
        · exact orOverflow_ne_divisionByZero _ stop
        · exact orOverflow_ne_divisionByZero _ stop
        · rcases failed with divided | ⟨_, _, stop⟩
          · have zero := (div_eq_divisionByZero_iff.mp divided).2
            rw [Decimal.isZero_iff_value, (ofNat_eq_ok_iff.mp found).2] at zero
            exact issued (by exact_mod_cast zero)
          · exact add_ne_divisionByZero _ _ stop
      · cases failed
  · rintro ⟨claimed, issued⟩
    simp [proRata, claimed, issued]

@[simp] theorem add_zero_right (number : Decimal) :
    add number .zero = .ok number :=
  add_of_value_eq (by simp)

@[simp] theorem add_zero_left (number : Decimal) :
    add .zero number = .ok number :=
  add_of_value_eq (by simp)

@[simp] theorem sub_zero_right (number : Decimal) :
    sub number .zero = .ok number :=
  sub_of_value_eq (by simp)

@[simp] theorem sub_self (number : Decimal) :
    sub number number = .ok .zero :=
  sub_of_value_eq (by simp)

@[simp] theorem mul_zero_left (number : Decimal) :
    mul .zero number = .ok .zero :=
  mul_of_value_eq (by simp)

@[simp] theorem div_zero_left (number : Decimal) :
    div .zero number = .ok .zero :=
  div_of_isZero Decimal.zero_isZero number

end Checked

end LiquidityReturns
