import LiquidityReturns.Decimal.Basic

namespace LiquidityReturns

/-!
# Rounding a rational number to a decimal number

`roundHalfEven` takes a rational number to the nearest integer, an exact half
to the even one.  `Decimal.nearest?` rounds a rational number once, keeping as
many fractional digits, up to 28, as the 96 bits of the coefficient admit.
-/

/-- The nearest integer; of two at the same distance, the even one. -/
def roundHalfEven (quotient : Rat) : Int :=
  let below := quotient.floor
  let excess := 2 * (quotient - (below : Rat))
  if excess < 1 then
    below
  else if 1 < excess then
    below + 1
  else if below % 2 = 0 then
    below
  else
    below + 1

namespace Decimal

/-- The number `coefficient / 10 ^ scale`, when the coefficient fits 96 bits. -/
def ofCoefficient?
    (coefficient : Int)
    (scale : Nat)
    (scale_le : scale ≤ maxScale) :
    Option Decimal :=
  if fits : coefficient.natAbs ≤ maxCoefficient then
    some (reduce coefficient fits scale scale_le)
  else
    none

/--
Round to the largest scale, at most the given one, at which the rounded
coefficient fits 96 bits.
-/
def nearestAt? (quotient : Rat) :
    (scale : Nat) → scale ≤ maxScale → Option Decimal
  | 0, scale_le =>
      ofCoefficient? (roundHalfEven quotient) 0 scale_le
  | scale + 1, scale_le =>
      match ofCoefficient?
          (roundHalfEven (quotient * (10 : Rat) ^ (scale + 1)))
          (scale + 1) scale_le with
      | some number =>
          some number
      | none =>
          nearestAt? quotient scale (by omega)

/--
The decimal number nearest to a rational number, rounded once, half to even.
There is none when the magnitude rounds beyond the largest coefficient.
-/
def nearest? (quotient : Rat) : Option Decimal :=
  nearestAt? quotient maxScale (Nat.le_refl maxScale)

end Decimal

end LiquidityReturns
