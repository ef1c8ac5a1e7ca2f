import LiquidityReturns.Decimal.Basic

namespace LiquidityReturns

/-!
# The canonical text of a decimal number

A minus sign below zero, the integer part without leading zeros but never
empty, and, unless the number is an integer, a point and the fractional digits
without trailing zeros.  There is never an exponent.
-/

namespace Decimal

/-- The fractional digits: exactly as many as the scale says. -/
def fractionDigits (fraction scale : Nat) : List Char :=
  let digits := Nat.toDigits 10 fraction
  List.replicate (scale - digits.length) '0' ++ digits

/--
The digits of a magnitude `mantissa / 10 ^ scale`, with a point if it has a
fraction.
-/
def magnitudeText (mantissa : Nat) : (scale : Nat) → List Char
  | 0 =>
      Nat.toDigits 10 mantissa
  | scale + 1 =>
      Nat.toDigits 10 (mantissa / Nat.pow 10 (scale + 1)) ++
        '.' :: fractionDigits (mantissa % Nat.pow 10 (scale + 1)) (scale + 1)

def characters (number : Decimal) : List Char :=
  let magnitude := magnitudeText number.coefficient.natAbs number.scale
  if number.isNegative then '-' :: magnitude else magnitude

/-- The canonical text. -/
def text (number : Decimal) : String :=
  String.ofList number.characters

instance : ToString Decimal :=
  ⟨text⟩

end Decimal

end LiquidityReturns
