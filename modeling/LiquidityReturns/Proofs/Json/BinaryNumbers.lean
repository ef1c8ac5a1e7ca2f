import Mathlib
import LiquidityReturns.Proofs.Binary64.Layout
import LiquidityReturns.Proofs.Json.NumberText
import LiquidityReturns.Proofs.Outcome

namespace LiquidityReturns.JsonNumber

/-!
# Numbers that pass through binary64

A number that is not an integer of 64 bits is taken to have the shortest text
of its binary64 value.  That value is rounded twice, but a number that is
written with at most fifteen digits is a quotient of two numbers that binary64
represents, so it is rounded once and its digits survive.  A number of more
than seventeen significant digits never survives.
-/

open Binary64

variable {number : JsonNumber}

theorem le_foldl_digits (digits : List ℕ) (start : ℕ) :
    start ≤ digits.foldl (fun total digit => 10 * total + digit) start := by
  induction digits generalizing start with
  | nil =>
      exact le_rfl
  | cons first rest inductionHypothesis =>
      exact (by omega : start ≤ 10 * start + first).trans
        (inductionHypothesis _)

/-- Digits are all kept when their number fits 64 bits. -/
theorem appendDigits_of_fits
    {digits : List ℕ}
    {start : ℕ}
    (fits :
      digits.foldl (fun total digit => 10 * total + digit) start <
        2 ^ 64) :
    appendDigits start digits =
      (digits.foldl (fun total digit => 10 * total + digit) start, 0) := by
  induction digits generalizing start with
  | nil =>
      rfl
  | cons first rest inductionHypothesis =>
      rw [List.foldl_cons] at fits ⊢
      have small : 10 * start + first < Nat.pow 2 64 :=
        (le_foldl_digits rest _).trans_lt fits
      rw [appendDigits, if_pos small]
      exact inductionHypothesis fits

theorem numeral_integerDigits (number : JsonNumber) :
    Text.numeral number.integerDigits = number.integer :=
  (Text.numeral_values _).trans Nat.ofDigitChars_ten_toDigits

/-- The significand of a number that fits 64 bits holds all of its digits. -/
theorem scaledSignificand_of_fits
    (noExponent : number.exponent = none)
    (fits : number.numeral < 2 ^ 64) :
    number.scaledSignificand =
      (number.numeral, -(number.fraction.length : ℤ)) := by
  have integerFits : number.integer < 2 ^ 64 :=
    (le_foldl_digits number.fraction number.integer).trans_lt fits
  have whole :
      appendDigits 0 number.integerDigits = (number.integer, 0) := by
    have value :
        number.integerDigits.foldl
            (fun total digit => 10 * total + digit) 0 =
          number.integer :=
      number.numeral_integerDigits
    rw [appendDigits_of_fits (by rwa [value]), value]
  unfold scaledSignificand
  rw [whole]
  simp only
  rw [appendDigits_of_fits fits, noExponent]
  simp [numeral]

/-- A power of ten up to the twenty-second is kept. -/
theorem exists_round?_ten_pow
    {power : ℕ}
    (small : power ≤ 22) :
    ∃ magnitude,
      round? ((10 : ℚ) ^ power) = some magnitude ∧
        magnitude.value = (10 : ℚ) ^ power := by
  have shape :
      (10 : ℚ) ^ power = ((5 ^ power : ℕ) : ℚ) * 2 ^ (power : ℤ) := by
    rw [zpow_natCast]
    push_cast
    rw [← mul_pow]
    norm_num
  have fits : 5 ^ power < 2 ^ 53 :=
    (Nat.pow_le_pow_right (by decide) small).trans_lt (by decide)
  rw [shape]
  exact exists_round?_of_representable fits
    (by rw [leastExponent]; omega) (by rw [greatestExponent]; omega)

theorem exists_round?_natCast
    {natural : ℕ}
    (small : natural < 2 ^ 53) :
    ∃ magnitude,
      round? (natural : ℚ) = some magnitude ∧
        magnitude.value = natural := by
  have kept :
      ∃ magnitude,
        round? ((natural : ℚ) * 2 ^ (0 : ℤ)) = some magnitude ∧
          magnitude.value = (natural : ℚ) * 2 ^ (0 : ℤ) :=
    exists_round?_of_representable small (by decide) (by decide)
  simpa using kept

/-- A number of fifteen digits is rounded once. -/
theorem magnitude?_of_short
    (noExponent : number.exponent = none)
    (short : number.numeral < 2 ^ 53)
    (few : number.fraction.length ≤ 22) :
    number.magnitude? =
      round? ((number.numeral : ℚ) / 10 ^ number.fraction.length) := by
  obtain ⟨whole, isWhole, wholeValue⟩ := exists_round?_natCast short
  obtain ⟨divisor, isDivisor, divisorValue⟩ := exists_round?_ten_pow few
  rw [magnitude?, scaledSignificand_of_fits noExponent (by omega)]
  simp only [isWhole, Option.bind_eq_bind, Option.bind_some]
  have significand : whole.significand = 0 ↔ number.numeral = 0 := by
    rw [significand_eq_zero_iff, wholeValue, Nat.cast_eq_zero]
  by_cases zero : number.numeral = 0
  · rw [scale?, if_pos (significand.mpr zero), zero, Nat.cast_zero, zero_div,
      round?, if_pos rfl]
  rw [scale?, if_neg (mt significand.mp zero)]
  rcases Nat.eq_zero_or_pos number.fraction.length with integral | fractional
  · rw [integral] at isDivisor divisorValue ⊢
    rw [if_pos (by simp), if_pos (by decide), Nat.cast_zero, neg_zero,
      Int.toNat_zero, scaleUp?, isDivisor]
    simp only [Option.bind_eq_bind, Option.bind_some, wholeValue,
      divisorValue, pow_zero, mul_one, div_one]
  · rw [if_neg (by omega), if_pos (by rw [largestPower]; omega), neg_neg,
      Int.toNat_natCast, scaleDown?, isDivisor]
    simp only [Option.bind_eq_bind, Option.bind_some, wholeValue,
      divisorValue]

/--
A positive number of fifteen digits has a magnitude, to which it rounds back.
-/
theorem exists_magnitude?_of_short
    (noExponent : number.exponent = none)
    (positive : 0 < number.numeral)
    (short : number.numeral < 10 ^ 15)
    (few : number.fraction.length ≤ 22) :
    ∃ magnitude,
      number.magnitude? = some magnitude ∧ magnitude.Normal ∧
        magnitude.roundsBack
          ((number.numeral : ℚ) / 10 ^ number.fraction.length) = true := by
  have power : (0 : ℚ) < 10 ^ number.fraction.length := by
    positivity
  have power_le : (10 : ℚ) ^ number.fraction.length ≤ 10 ^ 22 :=
    pow_le_pow_right₀ (by norm_num) few
  have one_le_power : (1 : ℚ) ≤ 10 ^ number.fraction.length :=
    one_le_pow₀ (by norm_num)
  have one_le : (1 : ℚ) ≤ number.numeral := by
    exact_mod_cast positive
  have bounded : (number.numeral : ℚ) < 2 ^ 50 := by
    exact_mod_cast short.trans (by decide)
  obtain ⟨quotient, shape⟩ :
      ∃ quotient,
        (number.numeral : ℚ) / 10 ^ number.fraction.length = quotient :=
    ⟨_, rfl⟩
  have quotientPositive : 0 < quotient := by
    rw [← shape]
    positivity
  have lower : ((2 : ℕ) : ℚ) ^ (-74 : ℤ) ≤ quotient := by
    rw [← shape, le_div_iff₀ power]
    norm_num at power_le ⊢
    linarith
  have upper : quotient < ((2 : ℕ) : ℚ) ^ (50 : ℤ) := by
    rw [← shape, div_lt_iff₀ power]
    have scaled :=
      bounded.trans_le (le_mul_of_one_le_right (by positivity) one_le_power)
    push_cast
    linarith
  rw [Int.zpow_le_iff_le_log (by norm_num) quotientPositive] at lower
  rw [Int.lt_zpow_iff_log_lt (by norm_num) quotientPositive] at upper
  obtain ⟨magnitude, found, normal, inside⟩ :=
    exists_round?_of_normal quotientPositive
      (by rw [leastExponent]; omega) (by rw [greatestExponent]; omega)
  refine ⟨magnitude, ?_, normal, shape ▸ inside⟩
  rw [magnitude?_of_short noExponent (by omega) few, shape, found]

/--
A magnitude to which fifteen digits round has its first digit among them, or
just before.
-/
theorem log_value_of_short
    {magnitude : Binary64}
    (normal : magnitude.Normal)
    (short : number.numeral < 10 ^ 15)
    (positive : 0 < number.numeral)
    (inside :
      magnitude.roundsBack
        ((number.numeral : ℚ) / 10 ^ number.fraction.length) = true) :
    -(number.fraction.length : ℤ) - 1 ≤ Int.log 10 magnitude.value ∧
      Int.log 10 magnitude.value < 15 - number.fraction.length := by
  have power : (0 : ℚ) < 10 ^ number.fraction.length := by
    positivity
  have one_le : (1 : ℚ) ≤ number.numeral := by
    exact_mod_cast positive
  have bounded : (number.numeral : ℚ) + 1 ≤ 10 ^ 15 := by
    exact_mod_cast short
  have near := abs_sub_le_of_roundsBack inside
  have unit := normal.le_value
  obtain ⟨exact, shape⟩ :
      ∃ exact,
        (number.numeral : ℚ) / 10 ^ number.fraction.length = exact :=
    ⟨_, rfl⟩
  rw [shape] at near
  rw [div_eq_iff power.ne'] at shape
  obtain ⟨least, greatest⟩ := abs_le.mp near
  -- The magnitude is within one part in `2 ^ 53` of the number.
  have lower :
      magnitude.value * (1 - 1 / 2 ^ 53) * 10 ^ number.fraction.length ≤
        number.numeral := by
    rw [shape]
    gcongr
    norm_num at unit ⊢
    linarith
  have upper :
      (number.numeral : ℚ) ≤
        magnitude.value * (1 + 1 / 2 ^ 53) *
          10 ^ number.fraction.length := by
    rw [shape]
    gcongr
    norm_num at unit ⊢
    linarith
  constructor
  · refine (Int.zpow_le_iff_le_log (b := 10) (by norm_num)
      normal.value_pos).mp ?_
    push_cast
    rw [zpow_sub₀ (by norm_num), zpow_neg, zpow_natCast, zpow_one,
      div_le_iff₀ (by norm_num), inv_le_iff_one_le_mul₀ power]
    norm_num at upper ⊢
    linarith
  · refine (Int.lt_zpow_iff_log_lt (b := 10) (by norm_num)
      normal.value_pos).mp ?_
    push_cast
    rw [zpow_sub₀ (by norm_num), zpow_natCast, lt_div_iff₀ power]
    norm_num at lower ⊢
    linarith

/-- The digits of a number of fifteen digits survive. -/
theorem shortestDigits_of_short
    {magnitude : Binary64}
    (normal : magnitude.Normal)
    (short : number.numeral < 10 ^ 15)
    (positive : 0 < number.numeral)
    (inside :
      magnitude.roundsBack
        ((number.numeral : ℚ) / 10 ^ number.fraction.length) = true) :
    magnitude.shortestDigits.value =
        (number.numeral : ℚ) / 10 ^ number.fraction.length ∧
      -(number.fraction.length : ℤ) - 1 ≤
        magnitude.shortestDigits.exponent := by
  obtain ⟨aboveLog, belowLog⟩ :=
    log_value_of_short normal short positive inside
  obtain ⟨grid, isGrid⟩ :
      ∃ grid,
        min (-(number.fraction.length : ℤ)) (Int.log 10 magnitude.value) =
          grid :=
    ⟨_, rfl⟩
  obtain ⟨zeros, isZeros⟩ :=
    Int.eq_ofNat_of_zero_le
      (a := -(number.fraction.length : ℤ) - grid) (by omega)
  have onGrid :
      (number.numeral : ℚ) / 10 ^ number.fraction.length =
        ((number.numeral * 10 ^ zeros : ℕ) : ℚ) * 10 ^ grid := by
    have places : grid = -((number.fraction.length + zeros : ℕ) : ℤ) := by
      omega
    rw [places, zpow_neg, zpow_natCast, pow_add]
    push_cast
    field_simp
  rw [onGrid] at inside
  obtain ⟨value, finer⟩ :=
    shortestDigits_of_roundsBack normal (by omega) (by omega) inside
  exact ⟨value.trans onGrid.symm, by omega⟩

/-! ## Texts of numbers -/

open Decimal

theorem value_nonneg (magnitude : Binary64) : 0 ≤ magnitude.value := by
  unfold Binary64.value
  positivity

theorem significand_lt_of_scaleDown?
    {magnitude scaled : Binary64}
    {power : ℕ}
    (found : scaleDown? magnitude power = some scaled) :
    scaled.significand < 2 ^ 53 := by
  obtain ⟨divisor, _, found⟩ := Option.bind_eq_some_iff.mp found
  exact significand_lt_of_round?
    (div_nonneg (value_nonneg _) (value_nonneg _)) found

theorem significand_lt_of_scaleUp?
    {magnitude scaled : Binary64}
    {power : ℕ}
    (found : scaleUp? magnitude power = some scaled) :
    scaled.significand < 2 ^ 53 := by
  obtain ⟨factor, _, found⟩ := Option.bind_eq_some_iff.mp found
  exact significand_lt_of_round?
    (mul_nonneg (value_nonneg _) (value_nonneg _)) found

theorem significand_lt_of_scale?
    {magnitude scaled : Binary64}
    {power : ℤ}
    (found : scale? magnitude power = some scaled) :
    scaled.significand < 2 ^ 53 := by
  unfold scale? at found
  split_ifs at found
  · cases found
    decide
  · exact significand_lt_of_scaleUp? found
  · exact significand_lt_of_scaleDown? found
  · obtain ⟨smaller, _, found⟩ := Option.bind_eq_some_iff.mp found
    exact significand_lt_of_scaleDown? found
  · cases found
    decide

theorem significand_lt_of_magnitude?
    {magnitude : Binary64}
    (found : number.magnitude? = some magnitude) :
    magnitude.significand < 2 ^ 53 := by
  obtain ⟨whole, _, found⟩ := Option.bind_eq_some_iff.mp found
  exact significand_lt_of_scale? found

theorem valueText?_of_magnitude?
    {magnitude : Binary64}
    (notMachine : number.isMachineInteger = false)
    (found : number.magnitude? = some magnitude) :
    number.valueText? =
      some (String.ofList
        (signCharacters number.negative ++ magnitude.shortestText)) := by
  unfold valueText?
  rw [found, notMachine]
  rfl

theorem shortestText_of_significand_ne_zero
    {magnitude : Binary64}
    (nonzero : magnitude.significand ≠ 0) :
    magnitude.shortestText = layout magnitude.shortestDigits :=
  if_neg nonzero

/-- The text of a zero is read as zero. -/
theorem read_zeroText (negative : Bool) :
    Decimal.read
        (String.ofList (signCharacters negative ++ ['0', '.', '0'])) =
      .ok .zero := by
  cases negative <;> rfl

/-- Laid out digits are read as the form of their reading. -/
theorem read_layout
    {digits : Digits}
    (small : digits.number ≤ 10 ^ 17)
    (negative : Bool) :
    Decimal.read
        (String.ofList (signCharacters negative ++ layout digits)) =
      (readForm (signCharacters negative ++ layout digits)).map
        Scaled.toDecimal := by
  rw [Decimal.read, Text.trim_ofList, readStrict, String.toList_ofList]
  intro character member
  rcases List.mem_append.mp member with sign | digit
  · unfold signCharacters at sign
    split at sign
    · rw [List.mem_singleton.mp sign]
      rfl
    · contradiction
  · exact isBlank_of_mem_layout small digit

/--
A number of at most fifteen digits is taken to have a text that is read as the
number.
-/
theorem exists_valueText?_of_short
    (positional : number.IsPositional)
    (short : number.numeral < 10 ^ 15)
    (few : number.fraction.length ≤ 22)
    (notMachine : number.isMachineInteger = false)
    {decimal : Decimal}
    (exact : number.value = decimal.value) :
    ∃ text,
      number.valueText? = some text ∧ Decimal.read text = .ok decimal := by
  rcases Nat.eq_zero_or_pos number.numeral with zero | positive
  · have isZero : decimal = .zero := by
      refine Decimal.value_injective ?_
      rw [← exact, positional.value_eq, zero, Nat.cast_zero, zero_div,
        mul_zero, Decimal.value_zero]
    have found : number.magnitude? = some .zero := by
      rw [magnitude?_of_short positional.noExponent (by omega) few, zero,
        Nat.cast_zero, zero_div, round?, if_pos rfl]
    exact ⟨_, valueText?_of_magnitude? notMachine found,
      isZero ▸ read_zeroText number.negative⟩
  · obtain ⟨magnitude, found, normal, inside⟩ :=
      exists_magnitude?_of_short positional.noExponent positive short few
    obtain ⟨value, fine⟩ :=
      shortestDigits_of_short normal short positive inside
    have small :=
      shortestDigits_number_le normal.significand_lt normal.value_pos
    have nonzero : magnitude.significand ≠ 0 := by
      rw [ne_eq, significand_eq_zero_iff]
      exact normal.value_pos.ne'
    have valuePositive : 0 < magnitude.shortestDigits.value := by
      rw [value]
      positivity
    have numberPositive : 0 < magnitude.shortestDigits.number := by
      by_contra zero
      rw [Digits.value, Nat.eq_zero_of_not_pos zero, Nat.cast_zero,
        zero_mul] at valuePositive
      exact lt_irrefl _ valuePositive
    have bounded : magnitude.shortestDigits.value < 10 ^ 16 := by
      rw [value]
      refine
        (div_le_self (by positivity) (one_le_pow₀ (by norm_num))).trans_lt
          ?_
      exact_mod_cast short.trans (by decide)
    obtain ⟨form, accepted, sign, read⟩ :=
      exists_readForm_layout numberPositive small
        (by rw [maxScale]; omega) bounded number.negative
    refine ⟨_, valueText?_of_magnitude? notMachine found, ?_⟩
    rw [shortestText_of_significand_ne_zero nonzero, read_layout small,
      accepted]
    refine congrArg Except.ok (Decimal.value_injective ?_)
    rw [form.value_toDecimal, form.value_eq, sign, read, value, ← exact,
      positional.value_eq]

/--
Beyond the integers of 64 bits no number is read with more than seventeen
digits.
-/
theorem hasFewDigits_of_valueText?
    (notMachine : number.isMachineInteger = false)
    {text : String}
    (written : number.valueText? = some text)
    {decimal : Decimal}
    (accepted : Decimal.read text = .ok decimal) :
    HasFewDigits decimal.value := by
  cases found : number.magnitude? with
  | none =>
      unfold valueText? at written
      rw [found, notMachine] at written
      contradiction
  | some magnitude =>
      rw [valueText?_of_magnitude? notMachine found,
        Option.some.injEq] at written
      subst written
      by_cases zero : magnitude.significand = 0
      · rw [shortestText, if_pos zero, read_zeroText] at accepted
        cases accepted
        exact ⟨0, by decide, 0, by simp⟩
      · have fits := significand_lt_of_magnitude? found
        have positive : 0 < magnitude.value :=
          lt_of_le_of_ne (value_nonneg _)
            (Ne.symm (mt significand_eq_zero_iff.mpr zero))
        have small := shortestDigits_number_le fits positive
        rw [shortestText_of_significand_ne_zero zero, read_layout small,
          Outcome.map_eq_ok_iff] at accepted
        obtain ⟨form, accepted, rfl⟩ := accepted
        rw [form.value_toDecimal]
        exact hasFewDigits_readForm_layout small accepted

end LiquidityReturns.JsonNumber
