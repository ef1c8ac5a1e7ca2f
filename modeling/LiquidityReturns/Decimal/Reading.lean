import LiquidityReturns.Decimal.Basic
import LiquidityReturns.Text.Blank
import LiquidityReturns.Text.Digit

namespace LiquidityReturns

/-!
# Reading a decimal number

A positional text has an optional sign and digits with at most one point;
underscores may stand anywhere after the first digit.  Fractional digits are
kept while they fit, and the first digit that does not fit rounds the
magnitude, half up.  A text that is not positional but holds an `e` is read in
scientific notation.
-/

open Text

namespace Decimal

/-- Why a text is not a decimal number. -/
inductive ReadError where
  | empty
  | noDigits
  | twoPoints
  | leadingSeparator
  | unknownCharacter
  | tooManyDigits
  | roundingOverflow
  | malformedExponent
  | exponentTooLarge (exponent : Nat)
  | tooLarge
  deriving Repr, DecidableEq

/-- The wording of a reading error. -/
def ReadError.message : ReadError → String
  | .empty =>
      "Invalid decimal: empty"
  | .noDigits =>
      "Invalid decimal: no digits found"
  | .twoPoints =>
      "Invalid decimal: two decimal points"
  | .leadingSeparator =>
      "Invalid decimal: must start lead with a number"
  | .unknownCharacter =>
      "Invalid decimal: unknown character"
  | .tooManyDigits =>
      "Invalid decimal: overflow from too many digits"
  | .roundingOverflow =>
      "Invalid decimal: overflow from mantissa after rounding"
  | .malformedExponent =>
      "Failed to parse"
  | .exponentTooLarge exponent =>
      s!"Scale exceeds the maximum precision allowed: {exponent} > 28"
  | .tooLarge =>
      "Number exceeds maximum value that can be represented."

/--
Raise the magnitude by one in its last place.  A mantissa that no longer fits
gives up its last digit, or fails when it has no fractional digit to give.
-/
def raiseLast (form : Scaled) : Except ReadError Scaled :=
  if fits : form.mantissa + 1 ≤ maxCoefficient then
    .ok { form with mantissa := form.mantissa + 1, mantissa_le := fits }
  else if form.scale = 0 then
    .error .roundingOverflow
  else
    .ok {
      form with
      mantissa := (form.mantissa + 5) / 10
      scale := form.scale - 1
      mantissa_le := by
        have mantissa_le := form.mantissa_le
        unfold maxCoefficient at *
        omega
      scale_le := by
        have scale_le := form.scale_le
        omega
    }

/-- Round at the first digit that was not kept. -/
def roundAt (digit : Nat) (form : Scaled) : Except ReadError Scaled :=
  if 5 ≤ digit then raiseLast form else .ok form

/-- Characters after the rounding digit must be digits or separators. -/
def checkTail : List Char → Except ReadError Unit
  | [] =>
      .ok ()
  | character :: rest =>
      if (digitValue? character).isSome ∨ character = '_' then
        checkTail rest
      else if character = '.' then
        .error .twoPoints
      else
        .error .unknownCharacter

/-- Round at a digit, then check the characters after it. -/
def finishAt
    (digit : Nat)
    (form : Scaled)
    (rest : List Char) :
    Except ReadError Scaled :=
  match roundAt digit form with
  | .error failure =>
      .error failure
  | .ok rounded =>
      (checkTail rest).map fun _ => rounded

/--
The least mantissa for which a separator is skipped in search of the rounding
digit: ten times the 64-bit limit on the digits before the last one.
-/
def wideMantissa : Nat :=
  10 * ((Nat.pow 2 64 - 1) / 10 - 255)

/--
A form that is not full after the point has room for the scale of one more
digit.
-/
theorem scale_le_of_room
    (form : Scaled)
    {point : Bool}
    (room : ¬ (point = true ∧ form.scale = maxScale)) :
    (if point then form.scale + 1 else form.scale) ≤ maxScale := by
  have scale_le := form.scale_le
  split
  · rename_i seen
    have different : form.scale ≠ maxScale :=
      fun same => room ⟨seen, same⟩
    omega
  · exact scale_le

/--
Read the digits after the sign.  `point` says whether the point has been seen
and `digits` whether any digit has.
-/
def readDigits (form : Scaled) (point digits : Bool) :
    List Char → Except ReadError Scaled
  | [] =>
      if digits then .ok form else .error .noDigits
  | character :: rest =>
      match digitValue? character with
      | some digit =>
          if room : ¬ (point = true ∧ form.scale = maxScale) then
            if fits : 10 * form.mantissa + digit ≤ maxCoefficient then
              readDigits
                { form with
                  mantissa := 10 * form.mantissa + digit
                  scale := if point then form.scale + 1 else form.scale
                  mantissa_le := fits
                  scale_le := scale_le_of_room form room }
                point true rest
            else if point then
              finishAt digit form rest
            else
              .error .tooManyDigits
          else
            finishAt digit form rest
      | none =>
          if character = '.' then
            if point then
              .error .twoPoints
            else
              readDigits form true digits rest
          else if character = '_' then
            if !digits then
              .error .leadingSeparator
            else if point ∧ form.scale = maxScale ∧
                form.mantissa < wideMantissa then
              finishAt 0 form rest
            else
              readDigits form point true rest
          else
            .error .unknownCharacter

/-- Zero with the given sign and no fractional digit: where reading starts. -/
def signedZero (negative : Bool) : Scaled where
  negative := negative
  mantissa := 0
  scale := 0
  mantissa_le := Nat.zero_le maxCoefficient
  scale_le := Nat.zero_le maxScale

def readPositional : List Char → Except ReadError Scaled
  | [] =>
      .error .empty
  | '-' :: rest =>
      readDigits (signedZero true) false false rest
  | '+' :: rest =>
      readDigits (signedZero false) false false rest
  | characters =>
      readDigits (signedZero false) false false characters

/--
Read an exponent without its minus sign: an optional plus sign and digits below
`2 ^ 32`.
-/
def exponentMagnitude? (characters : List Char) : Option Nat :=
  let digits :=
    match characters with
    | '+' :: rest =>
        rest
    | _ =>
        characters
  (numeral? digits).filter (· < Nat.pow 2 32)

/-- Round the magnitude half up to a smaller number of fractional digits. -/
def shortenTo (scale : Nat) (form : Scaled) : Scaled :=
  if shorter : scale < form.scale then
    { form with
      mantissa :=
        (form.mantissa / Nat.pow 10 (form.scale - scale - 1) + 5) / 10
      scale := scale
      mantissa_le := by
        have mantissa_le := form.mantissa_le
        have smaller :=
          Nat.div_le_self form.mantissa (Nat.pow 10 (form.scale - scale - 1))
        unfold maxCoefficient at *
        omega
      scale_le := by
        have scale_le := form.scale_le
        omega }
  else
    form

theorem shortenTo_scale_le (scale : Nat) (form : Scaled) :
    (shortenTo scale form).scale ≤ scale := by
  unfold shortenTo
  split
  · exact Nat.le_refl scale
  · rename_i notShorter
    exact Nat.le_of_not_lt notShorter

/--
Move the point of a written form to the left.  Digits that would pass the
largest scale are rounded away first.
-/
def shiftLeft
    (exponent : Nat)
    (form : Scaled) :
    Except ReadError Scaled :=
  if bounded : exponent ≤ maxScale then
    .ok {
      shortenTo (maxScale - exponent) form with
      scale := (shortenTo (maxScale - exponent) form).scale + exponent
      scale_le := by
        have scale_le :=
          shortenTo_scale_le (maxScale - exponent) form
        omega
    }
  else
    .error (.exponentTooLarge exponent)

/-- Move the point of a written form to the right. -/
def shiftRight
    (exponent : Nat)
    (form : Scaled) :
    Except ReadError Scaled :=
  if maxScale < exponent then
    .error (.exponentTooLarge exponent)
  else if exponent ≤ form.scale then
    .ok {
      form with
      scale := form.scale - exponent
      scale_le := by
        have scale_le := form.scale_le
        omega
    }
  else if fits :
      form.mantissa * Nat.pow 10 (exponent - form.scale) ≤ maxCoefficient then
    .ok {
      form with
      mantissa := form.mantissa * Nat.pow 10 (exponent - form.scale)
      scale := 0
      mantissa_le := fits
      scale_le := Nat.zero_le maxScale
    }
  else
    .error .tooLarge

/-- Apply an exponent, given as the text after the `e`. -/
def applyExponent
    (form : Scaled)
    (exponent : List Char) :
    Except ReadError Scaled :=
  match exponent with
  | '-' :: rest =>
      match exponentMagnitude? rest with
      | none =>
          .error .malformedExponent
      | some magnitude =>
          shiftLeft magnitude form
  | _ =>
      match exponentMagnitude? exponent with
      | none =>
          .error .malformedExponent
      | some magnitude =>
          shiftRight magnitude form

def isExponentMark (character : Char) : Bool :=
  character = 'e' ∨ character = 'E'

/--
Read a text in scientific notation: a positional text, the mark, an exponent.
-/
def readScientific (characters : List Char) : Except ReadError Scaled :=
  match readPositional
      (characters.takeWhile fun character => !isExponentMark character) with
  | .error failure =>
      .error failure
  | .ok form =>
      applyExponent form
        ((characters.dropWhile fun character =>
          !isExponentMark character).drop 1)

/--
Read a text.  Scientific notation is tried when the text is not positional
and holds an exponent mark, and then decides the error.
-/
def readForm (characters : List Char) : Except ReadError Scaled :=
  match readPositional characters with
  | .ok form =>
      .ok form
  | .error failure =>
      if characters.any isExponentMark then
        readScientific characters
      else
        .error failure

/-- Read a number; blanks around it are not admitted. -/
def readStrict (text : String) : Except ReadError Decimal :=
  (readForm text.toList).map Scaled.toDecimal

/-- Read a number with blanks around it. -/
def read (text : String) : Except ReadError Decimal :=
  readStrict (trim text)

end Decimal

end LiquidityReturns
