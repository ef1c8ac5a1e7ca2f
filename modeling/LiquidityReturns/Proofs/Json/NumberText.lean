import Mathlib
import LiquidityReturns.Proofs.Decimal.WrittenDigits
import LiquidityReturns.Proofs.Json.Documents

namespace LiquidityReturns

/-!
# The exact value of a written number

A number that is written without an exponent denotes its digits over a power
of ten.  Read as a text it keeps that value whenever a decimal number has it.
-/

open Text

namespace JsonNumber

/-- All written digits, as one natural number. -/
def numeral (number : JsonNumber) : ℕ :=
  number.fraction.foldl (fun total digit => 10 * total + digit)
    number.integer

/-- The exact value of a number as it is written. -/
def value (number : JsonNumber) : ℚ :=
  (if number.negative then -1 else 1) *
    ((number.numeral : ℚ) *
      10 ^ (number.exponent.getD 0 - number.fraction.length))

variable {number : JsonNumber}

theorem IsPositional.value_eq (positional : number.IsPositional) :
    number.value =
      (if number.negative then -1 else 1) *
        ((number.numeral : ℚ) / 10 ^ number.fraction.length) := by
  rw [value, positional.noExponent, Option.getD_none, zero_sub, zpow_neg,
    zpow_natCast, div_eq_mul_inv]

theorem IsPositional.abs_value (positional : number.IsPositional) :
    |number.value| =
      (number.numeral : ℚ) / 10 ^ number.fraction.length := by
  rw [positional.value_eq]
  have nonneg :
      (0 : ℚ) ≤ (number.numeral : ℚ) / 10 ^ number.fraction.length := by
    positivity
  split
  · rw [neg_one_mul, abs_neg, abs_of_nonneg nonneg]
  · rw [one_mul, abs_of_nonneg nonneg]

theorem isDigit_of_mem_fraction
    (positional : number.IsPositional)
    {character : Char}
    (member : character ∈ number.fraction.map Nat.digitChar) :
    isDigit character = true := by
  obtain ⟨digit, isMember, rfl⟩ := List.mem_map.mp member
  exact Json.isDigit_digitChar digit (positional.isDigit digit isMember)

theorem ofDigitChars_map_digitChar
    {digits : List ℕ}
    (small : ∀ digit ∈ digits, digit < 10)
    (start : ℕ) :
    Nat.ofDigitChars 10 (digits.map Nat.digitChar) start =
      digits.foldl (fun total digit => 10 * total + digit) start := by
  induction digits generalizing start with
  | nil =>
      rfl
  | cons first rest inductionHypothesis =>
      rw [List.forall_mem_cons] at small
      rw [List.map_cons, Nat.ofDigitChars_cons_digitChar_of_lt_ten small.1,
        List.foldl_cons]
      exact inductionHypothesis small.2 _

theorem IsPositional.numeral_eq (positional : number.IsPositional) :
    number.numeral =
      Nat.ofDigitChars 10 (number.fraction.map Nat.digitChar)
        number.integer :=
  (ofDigitChars_map_digitChar positional.isDigit _).symm

/--
The integer part of a number that a decimal number denotes fits its
coefficient.
-/
theorem integer_le
    (positional : number.IsPositional)
    {decimal : Decimal}
    (exact : number.value = decimal.value) :
    number.integer ≤ Decimal.maxCoefficient := by
  have bounded : |number.value| ≤ (Decimal.maxCoefficient : ℚ) := by
    rw [exact]
    refine decimal.abs_value_le_at_scale.trans (div_le_self (by positivity) ?_)
    exact one_le_pow₀ (by norm_num)
  rw [positional.abs_value, div_le_iff₀ (by positivity)] at bounded
  have total :
      number.numeral ≤
        Decimal.maxCoefficient * 10 ^ number.fraction.length := by
    exact_mod_cast bounded
  rw [positional.numeral_eq, Nat.ofDigitChars_eq_ofDigitChars_zero,
    List.length_map] at total
  have whole :
      10 ^ number.fraction.length * number.integer ≤
        10 ^ number.fraction.length * Decimal.maxCoefficient := by
    linarith
  exact Nat.le_of_mul_le_mul_left whole (by positivity)

/--
The digits of a number that a decimal number denotes are read as that number.
-/
theorem exists_readPositional
    (positional : number.IsPositional)
    {decimal : Decimal}
    (exact : number.value = decimal.value) :
    ∃ form,
      Decimal.readPositional number.characters = .ok form ∧
        form.toDecimal = decimal := by
  suffices read :
      ∃ form,
        Decimal.readPositional number.characters = .ok form ∧
          form.negative = number.negative ∧
          (form.mantissa : ℚ) / 10 ^ form.scale = |decimal.value| by
    obtain ⟨form, accepted, sign, magnitude⟩ := read
    refine ⟨form, accepted, Decimal.value_injective ?_⟩
    rw [form.value_toDecimal, form.value_eq, sign, magnitude, ← exact,
      positional.abs_value, positional.value_eq]
  obtain ⟨first, rest, shape, digit⟩ := exists_first_digit number.integer
  have wholeValue :
      Nat.ofDigitChars 10 (digits number.integer) 0 = number.integer :=
    Nat.ofDigitChars_ten_toDigits
  have fits := integer_le positional exact
  have wholeRead :=
    Decimal.readDigits_whole number.negative
      (digits_ne_nil number.integer)
      (fun _ member => isDigit_of_mem_digits member)
      (wholeValue.symm ▸ fits)
      (fractionCharacters number.fraction)
  have magnitude := positional.abs_value
  rw [exact, positional.numeral_eq] at magnitude
  have written :
      number.characters =
        Decimal.signCharacters number.negative ++
          first :: (rest ++ fractionCharacters number.fraction) := by
    rw [characters, positional.noExponent, shape]
    simp [exponentCharacters, Decimal.signCharacters]
  rw [written, Decimal.readPositional_signed _ digit, ← List.cons_append,
    ← shape, wholeRead]
  cases fraction : number.fraction with
  | nil =>
      rw [fraction] at magnitude
      refine ⟨_, rfl, rfl, ?_⟩
      simpa [wholeValue] using magnitude.symm
  | cons digit later =>
      have fractional :
          ∀ character ∈ (digit :: later).map Nat.digitChar,
            isDigit character = true := by
        rw [← fraction]
        exact fun _ => isDigit_of_mem_fraction positional
      rw [fractionCharacters, Decimal.readDigits_point]
      · obtain ⟨form, accepted, sign, value⟩ :=
          Decimal.exists_readDigits_fraction
            ⟨number.negative, _, 0, wholeValue.symm ▸ fits, Nat.zero_le _⟩
            fractional
            (by
              rw [fraction] at magnitude
              simpa [wholeValue] using magnitude.symm)
        exact ⟨form, accepted, sign, value⟩
      · simp

theorem isBlank_of_mem_characters
    (positional : number.IsPositional)
    {character : Char}
    (member : character ∈ number.characters) :
    isBlank character = false := by
  rw [characters, positional.noExponent] at member
  simp only [exponentCharacters, List.append_nil, List.mem_append] at member
  rcases member with (sign | whole) | fraction
  · split at sign
    · rw [List.mem_singleton.mp sign]
      rfl
    · contradiction
  · exact isBlank_of_isDigit (isDigit_of_mem_digits whole)
  · unfold fractionCharacters at fraction
    split at fraction
    · contradiction
    · rcases List.mem_cons.mp fraction with rfl | digit
      · rfl
      · exact isBlank_of_isDigit (isDigit_of_mem_fraction positional digit)

/-- A text that denotes a decimal number is read as that number. -/
theorem read_characters
    (positional : number.IsPositional)
    {decimal : Decimal}
    (exact : number.value = decimal.value) :
    Decimal.read (String.ofList number.characters) = .ok decimal := by
  obtain ⟨form, accepted, denotes⟩ := exists_readPositional positional exact
  rw [Decimal.read, trim_ofList fun _ => isBlank_of_mem_characters positional,
    Decimal.readStrict, String.toList_ofList, Decimal.readForm, accepted,
    ← denotes]
  rfl

end JsonNumber

end LiquidityReturns
