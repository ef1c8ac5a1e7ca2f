namespace LiquidityReturns

/-!
# Hexadecimal digits
-/

namespace Text

/-- The value of a hexadecimal digit in either case. -/
def hexValue? (character : Char) : Option Nat :=
  if '0' ≤ character ∧ character ≤ '9' then
    some (character.toNat - '0'.toNat)
  else if 'a' ≤ character ∧ character ≤ 'f' then
    some (character.toNat - 'a'.toNat + 10)
  else if 'A' ≤ character ∧ character ≤ 'F' then
    some (character.toNat - 'A'.toNat + 10)
  else
    none

/-- The hexadecimal digit of a value below sixteen, in upper case. -/
def hexDigit (value : Nat) : Char :=
  (Nat.digitChar value).toUpper

end Text

end LiquidityReturns
