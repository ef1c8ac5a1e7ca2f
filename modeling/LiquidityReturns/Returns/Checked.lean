import LiquidityReturns.Pool.State
import LiquidityReturns.Returns.Failure

namespace LiquidityReturns

/-!
# Checked arithmetic

Decimal arithmetic that reports why a result does not exist.  A quotient of
zero is zero whatever the divisor, and a pro-rata share multiplies before it
divides, so that no ratio of units is ever rounded.
-/

namespace Checked

/-- A result that is too large is an overflow. -/
def orOverflow : Option α → Except ArithmeticError α
  | none =>
      .error .overflow
  | some result =>
      .ok result

def add (left right : Decimal) : Except ArithmeticError Decimal :=
  orOverflow (left.add? right)

def sub (left right : Decimal) : Except ArithmeticError Decimal :=
  orOverflow (left.sub? right)

def mul (left right : Decimal) : Except ArithmeticError Decimal :=
  orOverflow (left.mul? right)

/-- The quotient of two numbers; zero divided by anything is zero. -/
def div (left right : Decimal) : Except ArithmeticError Decimal :=
  if left.isZero then
    .ok .zero
  else if right.isZero then
    .error .divisionByZero
  else
    orOverflow (left.div? right)

/-- A natural number as a decimal number. -/
def ofNat (natural : Nat) : Except ArithmeticError Decimal :=
  orOverflow (Decimal.ofNat? natural)

/--
The share of a depth that belongs to some of the total units.  The product of
units and depth must stay below `2 ^ 128`; its integral quotient is exact and
only the remainder goes through decimal division.
-/
def proRata
    (units depth total : WholeAmount) :
    Except ArithmeticError Decimal :=
  if units.val = 0 then
    .ok .zero
  else if total.val = 0 then
    .error .divisionByZero
  else
    let product := units.val * depth.val
    if product < Nat.pow 2 128 then do
      let whole ← ofNat (product / total.val)
      let remainder ← ofNat (product % total.val)
      let fraction ← div remainder (← ofNat total.val)
      add whole fraction
    else
      .error .overflow

theorem div_of_isZero
    {left : Decimal}
    (zero : left.isZero = true)
    (right : Decimal) :
    div left right = .ok .zero := by
  simp [div, zero]

end Checked

end LiquidityReturns
