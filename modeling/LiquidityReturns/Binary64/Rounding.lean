import LiquidityReturns.Decimal.Rounding
import LiquidityReturns.Text.Digit

namespace LiquidityReturns

/-!
# Rounding to binary64

A finite magnitude of the binary64 format is `significand * 2 ^ exponent`
with a significand of 53 bits and an exponent from -1074 to 971.
`Binary64.round?` takes a non-negative rational number to the nearest
magnitude, an exact half to the even significand.
-/

/-- A finite magnitude of the binary64 format. -/
structure Binary64 where
  significand : Nat
  exponent : Int
  deriving Repr, DecidableEq

namespace Binary64

/-- The exact value of a magnitude. -/
def value (magnitude : Binary64) : Rat :=
  (magnitude.significand : Rat) * (2 : Rat) ^ magnitude.exponent

def leastExponent : Int :=
  -1074

def greatestExponent : Int :=
  971

def zero : Binary64 where
  significand := 0
  exponent := leastExponent

/-- The number of digits of a natural number in a base. -/
def digitCount (base number : Nat) : Nat :=
  (Nat.toDigits base number).length

/--
The exponent of the largest power of the base that is at most a positive
rational number.
-/
def floorLog (base : Nat) (quotient : Rat) : Int :=
  let estimate :=
    (digitCount base quotient.num.natAbs : Int) -
      digitCount base quotient.den
  if (base : Rat) ^ estimate ≤ quotient then
    estimate
  else
    estimate - 1

/-- Restore a significand of 53 bits after rounding carried it to `2 ^ 53`. -/
def carry (significand : Nat) (exponent : Int) : Binary64 :=
  if significand = Nat.pow 2 53 then
    ⟨Nat.pow 2 52, exponent + 1⟩
  else
    ⟨significand, exponent⟩

/-- The nearest magnitude; there is none when it would pass the largest. -/
def round? (quotient : Rat) : Option Binary64 :=
  if quotient = 0 then
    some zero
  else
    let exponent := max (floorLog 2 quotient - 52) leastExponent
    let significand :=
      (roundHalfEven (quotient / (2 : Rat) ^ exponent)).natAbs
    let rounded := carry significand exponent
    if rounded.exponent ≤ greatestExponent then
      some rounded
    else
      none

end Binary64

end LiquidityReturns
