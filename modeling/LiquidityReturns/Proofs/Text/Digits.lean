import Mathlib
import LiquidityReturns.Text.Digit

namespace LiquidityReturns.Text

/-!
# The digits of a natural number

`digits` writes a natural number without leading zeros, and `numeral?` reads
it back.  Readers that add one digit at a time are compared with
`Nat.ofDigitChars`, which starts from any number already read.
-/

theorem isDigit_eq (character : Char) :
    isDigit character = character.isDigit := by
  rw [Bool.eq_iff_iff]
  simp [isDigit, Char.isDigit, Char.le_def]

theorem digitValue?_of_isDigit
    {character : Char}
    (digit : isDigit character = true) :
    digitValue? character = some (character.toNat - '0'.toNat) := by
  simp [digitValue?, digit]

/-- Nothing but digits is written for a number. -/
theorem isDigit_of_mem_digits
    {number : Nat}
    {character : Char}
    (member : character ∈ digits number) :
    isDigit character = true := by
  rw [isDigit_eq]
  exact Nat.isDigit_of_mem_toDigits (by decide) (by decide) member

theorem digits_ne_nil (number : Nat) : digits number ≠ [] :=
  Nat.toDigits_ne_nil

/-- The first character of a number is a digit. -/
theorem exists_first_digit (number : Nat) :
    ∃ first rest,
      digits number = first :: rest ∧ isDigit first = true := by
  obtain ⟨first, rest, shape⟩ :=
    List.exists_cons_of_ne_nil (digits_ne_nil number)
  exact ⟨first, rest, shape,
    isDigit_of_mem_digits (shape ▸ List.mem_cons_self)⟩

/-- The last digit of a number is its remainder by ten. -/
theorem getLast?_digits (number : Nat) :
    (digits number).getLast? = some (number % 10).digitChar := by
  unfold digits
  rw [Nat.toDigits_eq_if (by decide)]
  split
  · rename_i small
    rw [Nat.mod_eq_of_lt small]
    rfl
  · simp

/-- A number above zero is written without a leading zero. -/
theorem head?_digits_ne_zero
    {number : Nat}
    (positive : 0 < number) :
    (digits number).head? ≠ some '0' := by
  induction number using Nat.strong_induction_on with
  | _ number inductionHypothesis =>
      have shape := Nat.toDigits_eq_if (b := 10) (n := number) (by decide)
      by_cases small : number < 10
      · rw [if_pos small] at shape
        unfold digits
        rw [shape]
        simpa using Nat.pos_iff_ne_zero.mp positive
      · rw [if_neg small] at shape
        have leading :=
          inductionHypothesis (number / 10) (by omega) (by omega)
        unfold digits at *
        rwa [shape, List.head?_append_of_ne_nil _ Nat.toDigits_ne_nil]

/-- Digits read onto a number never make it smaller. -/
theorem le_ofDigitChars (characters : List Char) (start : Nat) :
    start ≤ Nat.ofDigitChars 10 characters start := by
  rw [Nat.ofDigitChars_eq_ofDigitChars_zero]
  have growth : start ≤ 10 ^ characters.length * start :=
    Nat.le_mul_of_pos_left start (by positivity)
  omega

/-- The numeral of the values of digits is the number that the digits denote. -/
theorem numeral_values (characters : List Char) :
    numeral (characters.map fun character => character.toNat - '0'.toNat) =
      Nat.ofDigitChars 10 characters 0 := by
  rw [numeral, List.foldl_map]
  rfl

/-- The value of a sequence of digits, read from the left. -/
theorem numeral?_of_isDigit
    {characters : List Char}
    (nonempty : characters ≠ [])
    (allDigits : ∀ character ∈ characters, isDigit character = true) :
    numeral? characters = some (Nat.ofDigitChars 10 characters 0) := by
  have values :
      characters.mapM digitValue? =
        some (characters.map fun character =>
          character.toNat - '0'.toNat) := by
    clear nonempty
    induction characters with
    | nil =>
        rfl
    | cons first rest inductionHypothesis =>
        rw [List.forall_mem_cons] at allDigits
        rw [List.mapM_cons, digitValue?_of_isDigit allDigits.1,
          inductionHypothesis allDigits.2]
        rfl
  cases characters with
  | nil =>
      exact (nonempty rfl).elim
  | cons first rest =>
      change ((first :: rest).mapM digitValue?).map numeral = _
      rw [values, Option.map_some, numeral_values]

/-- The digits of a number read as that number. -/
theorem numeral?_digits (number : Nat) :
    numeral? (digits number) = some number := by
  rw [numeral?_of_isDigit (digits_ne_nil number)
    fun _ member => isDigit_of_mem_digits member]
  exact congrArg some Nat.ofDigitChars_ten_toDigits

end LiquidityReturns.Text
