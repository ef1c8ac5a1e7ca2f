namespace LiquidityReturns

/-!
# Decimal digits

The value of a digit character and of a sequence of digit characters.
-/

namespace Text

/-- Whether a character is one of the ten ASCII digits. -/
def isDigit (character : Char) : Bool :=
  '0' ≤ character ∧ character ≤ '9'

def digitValue? (character : Char) : Option Nat :=
  if isDigit character then
    some (character.toNat - '0'.toNat)
  else
    none

/-- The number that a sequence of digit values denotes. -/
def numeral (digits : List Nat) : Nat :=
  digits.foldl (fun total digit => 10 * total + digit) 0

/-- The number that a text of digits denotes; the empty text denotes none. -/
def numeral? : List Char → Option Nat
  | [] =>
      none
  | characters =>
      (characters.mapM digitValue?).map numeral

/-- The decimal digits of a natural number, most significant first. -/
def digits (number : Nat) : List Char :=
  Nat.toDigits 10 number

def signed (number : Int) : List Char :=
  if number < 0 then '-' :: digits number.natAbs else digits number.natAbs

theorem digitValue?_eq_none_iff (character : Char) :
    digitValue? character = none ↔ isDigit character = false := by
  unfold digitValue?
  split <;> simp_all

end Text

end LiquidityReturns
