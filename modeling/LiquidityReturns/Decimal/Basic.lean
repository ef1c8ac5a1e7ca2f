namespace LiquidityReturns

/-!
# Decimal numbers

A decimal number is an integer coefficient of at most 96 bits over a power of
ten of at most 28.  The type keeps every number in lowest terms, so two decimal
numbers are equal exactly when they have the same value.  The written forms
that have a sign of zero or trailing zeros are a type of their own, `Scaled`,
and reduce to a number by `Scaled.toDecimal`.
-/

namespace Decimal

/--
The largest magnitude of a coefficient: the largest natural number of 96 bits.
-/
def maxCoefficient : Nat :=
  Nat.pow 2 96 - 1

/-- The largest number of fractional digits. -/
def maxScale : Nat :=
  28

end Decimal

/-- A decimal number `coefficient / 10 ^ scale` in lowest terms. -/
structure Decimal where
  coefficient : Int
  scale : Nat
  coefficient_le : coefficient.natAbs ≤ Decimal.maxCoefficient
  scale_le : scale ≤ Decimal.maxScale
  lowest : scale = 0 ∨ coefficient % 10 ≠ 0
  deriving DecidableEq

namespace Decimal

/-- The exact value of a decimal number. -/
def value (number : Decimal) : Rat :=
  (number.coefficient : Rat) / (10 : Rat) ^ number.scale

/-- Reduce a coefficient over a power of ten to lowest terms. -/
def reduce
    (coefficient : Int)
    (coefficient_le : coefficient.natAbs ≤ maxCoefficient) :
    (scale : Nat) → scale ≤ maxScale → Decimal
  | 0, scale_le =>
      ⟨coefficient, 0, coefficient_le, scale_le, Or.inl rfl⟩
  | scale + 1, scale_le =>
      if divisible : coefficient % 10 = 0 then
        reduce (coefficient / 10) (by omega) scale (by omega)
      else
        ⟨coefficient, scale + 1, coefficient_le, scale_le, Or.inr divisible⟩

/-- The decimal number of an integer, when its magnitude fits a coefficient. -/
def ofInt? (integer : Int) : Option Decimal :=
  if fits : integer.natAbs ≤ maxCoefficient then
    some ⟨integer, 0, fits, by decide, Or.inl rfl⟩
  else
    none

/-- The decimal number of a natural number, when it fits a coefficient. -/
def ofNat? (natural : Nat) : Option Decimal :=
  ofInt? natural

def zero : Decimal :=
  ⟨0, 0, by decide, by decide, Or.inl rfl⟩

theorem one_le_maxCoefficient : (1 : Int).natAbs ≤ maxCoefficient := by
  decide

def one : Decimal :=
  ⟨1, 0, one_le_maxCoefficient, by decide, Or.inl rfl⟩

def hundred : Decimal :=
  ⟨100, 0, by decide, by decide, Or.inl rfl⟩

instance : Inhabited Decimal :=
  ⟨zero⟩

instance : Repr Decimal where
  reprPrec number _ :=
    repr number.coefficient ++ "e-" ++ repr number.scale

def isZero (number : Decimal) : Bool :=
  number.coefficient == 0

def isNegative (number : Decimal) : Bool :=
  number.coefficient < 0

def neg (number : Decimal) : Decimal where
  coefficient := -number.coefficient
  scale := number.scale
  coefficient_le := by
    simpa using number.coefficient_le
  scale_le := number.scale_le
  lowest := by
    have lowest := number.lowest
    omega

def abs (number : Decimal) : Decimal :=
  if number.isNegative then number.neg else number

/-- Compare two numbers by value. -/
def compare (left right : Decimal) : Ordering :=
  if left.value < right.value then
    .lt
  else if right.value < left.value then
    .gt
  else
    .eq

theorem isZero_iff (number : Decimal) :
    number.isZero = true ↔ number.coefficient = 0 := by
  simp [isZero]

theorem isNegative_iff (number : Decimal) :
    number.isNegative = true ↔ number.coefficient < 0 := by
  simp [isNegative]

theorem zero_isZero : zero.isZero = true :=
  rfl

end Decimal

/--
A written form of a decimal number: a sign, a mantissa and a number of
fractional digits.  Zero has two signs here and trailing zeros are kept.
-/
structure Scaled where
  negative : Bool
  mantissa : Nat
  scale : Nat
  mantissa_le : mantissa ≤ Decimal.maxCoefficient
  scale_le : scale ≤ Decimal.maxScale
  deriving DecidableEq

namespace Scaled

/-- The coefficient of a written form, with its sign. -/
def coefficient (form : Scaled) : Int :=
  if form.negative then -(form.mantissa : Int) else form.mantissa

theorem natAbs_coefficient (form : Scaled) :
    form.coefficient.natAbs = form.mantissa := by
  unfold coefficient
  split <;> simp

/-- The exact value of a written form. -/
def value (form : Scaled) : Rat :=
  (form.coefficient : Rat) / (10 : Rat) ^ form.scale

/-- The number that a written form denotes. -/
def toDecimal (form : Scaled) : Decimal :=
  Decimal.reduce form.coefficient
    (by rw [natAbs_coefficient]; exact form.mantissa_le)
    form.scale form.scale_le

end Scaled

end LiquidityReturns
