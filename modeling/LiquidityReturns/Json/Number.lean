import LiquidityReturns.Binary64.Shortest
import LiquidityReturns.Text.Digit

namespace LiquidityReturns

/-!
# JSON numbers

A number of a JSON document is kept as it was written.  An integer of 64 bits
denotes itself.  Any other number denotes a binary64 number: the leading
digits that fit 64 bits are rounded to binary64 and then scaled by a power of
ten, which is a second rounding.
-/

/--
A JSON number as written: an integer part, fractional digits and an exponent.
-/
structure JsonNumber where
  negative : Bool
  integer : Nat
  fraction : List Nat
  exponent : Option Int
  deriving Repr, DecidableEq

namespace JsonNumber

/-- An integer, written plainly. -/
def ofInt (integer : Int) : JsonNumber where
  negative := integer < 0
  integer := integer.natAbs
  fraction := []
  exponent := none

/-- The integer that is written, if no point and no exponent is. -/
def plainInteger? (number : JsonNumber) : Option Int :=
  if number.fraction.isEmpty ∧ number.exponent.isNone then
    some (if number.negative then -number.integer else number.integer)
  else
    none

/-- Whether the text is a zero with a minus sign. -/
def isNegativeZero (number : JsonNumber) : Bool :=
  number.negative && number.integer == 0

/-- A plain natural number of at most the given limit, without a minus sign. -/
def toNat? (limit : Nat) (number : JsonNumber) : Option Nat :=
  if number.negative then
    none
  else
    match number.plainInteger? with
    | some integer =>
        if integer.toNat ≤ limit then some integer.toNat else none
    | none =>
        none

/-- A plain integer of 64 bits; a zero with a minus sign is not one. -/
def toInt64? (number : JsonNumber) : Option Int64 :=
  if number.isNegativeZero then
    none
  else
    match number.plainInteger? with
    | some integer =>
        if -(Nat.pow 2 63 : Int) ≤ integer ∧ integer < Nat.pow 2 63 then
          some (Int64.ofInt integer)
        else
          none
    | none =>
        none

/--
Append digits to a significand while it stays below `2 ^ 64`; the result says
how many digits were left.
-/
def appendDigits (significand : Nat) : List Nat → Nat × Nat
  | [] =>
      (significand, 0)
  | digit :: rest =>
      if 10 * significand + digit < Nat.pow 2 64 then
        appendDigits (10 * significand + digit) rest
      else
        (significand, rest.length + 1)

def integerDigits (number : JsonNumber) : List Nat :=
  (Text.digits number.integer).map fun character =>
    character.toNat - '0'.toNat

/--
The significand below `2 ^ 64` and the power of ten by which it is scaled.
-/
def scaledSignificand (number : JsonNumber) : Nat × Int :=
  let (whole, dropped) := appendDigits 0 number.integerDigits
  let (significand, ignored) := appendDigits whole number.fraction
  (significand,
    (dropped : Int) - (number.fraction.length - ignored : Nat) +
      number.exponent.getD 0)

/-- The binary64 product of a magnitude and a power of ten. -/
def scaleUp? (magnitude : Binary64) (power : Nat) : Option Binary64 := do
  let factor ← Binary64.round? ((10 : Rat) ^ power)
  Binary64.round? (magnitude.value * factor.value)

/-- The binary64 quotient of a magnitude by a power of ten. -/
def scaleDown? (magnitude : Binary64) (power : Nat) : Option Binary64 := do
  let divisor ← Binary64.round? ((10 : Rat) ^ power)
  Binary64.round? (magnitude.value / divisor.value)

/-- The largest power of ten below the largest binary64 number. -/
def largestPower : Nat :=
  308

/--
Scale a magnitude by a power of ten, in at most two divisions; smaller
results are zero, and larger ones do not exist.
-/
def scale? (magnitude : Binary64) (power : Int) : Option Binary64 :=
  if magnitude.significand = 0 then
    some Binary64.zero
  else if 0 ≤ power then
    if power ≤ largestPower then
      scaleUp? magnitude power.toNat
    else
      none
  else if -largestPower ≤ power then
    scaleDown? magnitude (-power).toNat
  else if -(2 * largestPower) ≤ power then do
    let smaller ← scaleDown? magnitude largestPower
    scaleDown? smaller (-power - largestPower).toNat
  else
    some Binary64.zero

/-- The binary64 magnitude that a number denotes, if there is one. -/
def magnitude? (number : JsonNumber) : Option Binary64 := do
  let (significand, power) := number.scaledSignificand
  scale? (← Binary64.round? significand) power

/-- Whether the number is an integer of 64 bits, with or without sign. -/
def isMachineInteger (number : JsonNumber) : Bool :=
  match number.plainInteger? with
  | none =>
      false
  | some integer =>
      if number.negative then
        integer ≠ 0 ∧ -(Nat.pow 2 63 : Int) ≤ integer
      else
        integer < Nat.pow 2 64

/--
The text that a number is taken to have: an integer of 64 bits as it is
written, any other number as the shortest text of its binary64 value.
-/
def valueText? (number : JsonNumber) : Option String :=
  let sign := if number.negative then ['-'] else []
  if number.isMachineInteger then
    some (String.ofList (sign ++ Text.digits number.integer))
  else
    number.magnitude?.map fun magnitude =>
      String.ofList (sign ++ magnitude.shortestText)

def exponentCharacters : Option Int → List Char
  | none =>
      []
  | some exponent =>
      'e' :: Text.signed exponent

def fractionCharacters : List Nat → List Char
  | [] =>
      []
  | fraction =>
      '.' :: fraction.map Nat.digitChar

def characters (number : JsonNumber) : List Char :=
  (if number.negative then ['-'] else []) ++
    Text.digits number.integer ++
    fractionCharacters number.fraction ++
    exponentCharacters number.exponent

end JsonNumber

end LiquidityReturns
