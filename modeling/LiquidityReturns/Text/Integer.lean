import LiquidityReturns.Text.Digit

namespace LiquidityReturns

/-!
# Reading a bounded integer

An integer text is an optional sign and at least one digit, without blanks.
A minus sign is admitted only where the range goes below zero.  Characters are
judged from left to right, so the first fault decides the error.
-/

namespace Text

/-- Why a text is not an integer of a range. -/
inductive IntegerError where
  | empty
  | invalidDigit
  | tooLarge
  | tooSmall
  deriving Repr, DecidableEq

/-- The wording of an integer error. -/
def IntegerError.message : IntegerError → String
  | .empty =>
      "cannot parse integer from empty string"
  | .invalidDigit =>
      "invalid digit found in string"
  | .tooLarge =>
      "number too large to fit in target type"
  | .tooSmall =>
      "number too small to fit in target type"

/-- Read digits onto a total, which may not pass the limit. -/
def readMagnitude (limit : Nat) (beyond : IntegerError) :
    Nat → List Char → Except IntegerError Nat
  | total, [] =>
      .ok total
  | total, character :: rest =>
      match digitValue? character with
      | none =>
          .error .invalidDigit
      | some digit =>
          if 10 * total + digit ≤ limit then
            readMagnitude limit beyond (10 * total + digit) rest
          else
            .error beyond

/-- Read the digits after the sign, at least one. -/
def readUnsignedDigits
    (limit : Nat)
    (beyond : IntegerError) :
    List Char → Except IntegerError Nat
  | [] =>
      .error .invalidDigit
  | characters =>
      readMagnitude limit beyond 0 characters

/-- Read a natural number of at most the given limit. -/
def readNat (limit : Nat) (text : String) : Except IntegerError Nat :=
  match text.toList with
  | [] =>
      .error .empty
  | '+' :: rest =>
      readUnsignedDigits limit .tooLarge rest
  | characters =>
      readMagnitude limit .tooLarge 0 characters

def readInt64 (text : String) : Except IntegerError Int64 :=
  match text.toList with
  | [] =>
      .error .empty
  | '+' :: rest =>
      (readUnsignedDigits (Nat.pow 2 63 - 1) .tooLarge rest).map
        fun magnitude => Int64.ofInt magnitude
  | '-' :: rest =>
      (readUnsignedDigits (Nat.pow 2 63) .tooSmall rest).map
        fun magnitude => Int64.ofInt (-(magnitude : Int))
  | characters =>
      (readMagnitude (Nat.pow 2 63 - 1) .tooLarge 0 characters).map
        fun magnitude => Int64.ofInt magnitude

theorem readMagnitude_le
    {limit : Nat}
    {beyond : IntegerError}
    {total : Nat}
    {characters : List Char}
    {magnitude : Nat}
    (bounded : total ≤ limit)
    (accepted :
      readMagnitude limit beyond total characters = .ok magnitude) :
    magnitude ≤ limit := by
  induction characters generalizing total with
  | nil =>
      simp only [readMagnitude, Except.ok.injEq] at accepted
      omega
  | cons character rest inductionHypothesis =>
      unfold readMagnitude at accepted
      split at accepted
      · contradiction
      · split at accepted
        · rename_i fits
          exact inductionHypothesis fits accepted
        · contradiction

theorem readNat_le
    {limit : Nat}
    {text : String}
    {number : Nat}
    (accepted : readNat limit text = .ok number) :
    number ≤ limit := by
  unfold readNat readUnsignedDigits at accepted
  split at accepted
  · contradiction
  · split at accepted
    · contradiction
    · exact readMagnitude_le (Nat.zero_le limit) accepted
  · exact readMagnitude_le (Nat.zero_le limit) accepted

end Text

end LiquidityReturns
