import LiquidityReturns.Decimal.Rounding

namespace LiquidityReturns

/-!
# Arithmetic of decimal numbers

Every operation takes the exact rational result and rounds it once with
`Decimal.nearest?`.  There is no result when it lies beyond the largest
number, nor for a quotient by zero.
-/

namespace Decimal

/-- The sum of two numbers, rounded once. -/
def add? (left right : Decimal) : Option Decimal :=
  nearest? (left.value + right.value)

/-- The difference of two numbers, rounded once. -/
def sub? (left right : Decimal) : Option Decimal :=
  nearest? (left.value - right.value)

/-- The product of two numbers, rounded once. -/
def mul? (left right : Decimal) : Option Decimal :=
  nearest? (left.value * right.value)

/-- The quotient of two numbers, rounded once; a zero divisor has none. -/
def div? (left right : Decimal) : Option Decimal :=
  if right.isZero then
    none
  else
    nearest? (left.value / right.value)

/--
The number of decimal places by which the ledger scales its integer amounts.
-/
def ledgerScale : Nat :=
  8

/-- One unit of a ledger amount, as a number. -/
def ledgerUnit : Decimal :=
  ⟨1, ledgerScale, one_le_maxCoefficient, by decide, Or.inr (by decide)⟩

/--
A ledger amount as a number of whole coins.  A product with the ledger unit
is never too large, so the fallback is out of reach.
-/
def descaled (amount : Decimal) : Decimal :=
  (amount.mul? ledgerUnit).getD zero

end Decimal

end LiquidityReturns
