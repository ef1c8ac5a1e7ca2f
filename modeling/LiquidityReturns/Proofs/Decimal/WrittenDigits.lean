import Mathlib
import LiquidityReturns.Json.Number
import LiquidityReturns.Proofs.Decimal.CanonicalText

namespace LiquidityReturns

/-!
# Reading written digits

Digits with a point in them are read exactly as long as they fit.  Where they
do not fit, but denote a decimal number all the same, every further digit is a
zero, and dropping zeros loses nothing.  So a positional text that denotes a
decimal number is read as that number, however many digits it has.
-/

open Text

namespace Scaled

/-- The value of a written form is its magnitude with its sign. -/
theorem value_eq (form : Scaled) :
    form.value =
      (if form.negative then -1 else 1) *
        ((form.mantissa : ℚ) / 10 ^ form.scale) := by
  unfold value coefficient
  split <;> push_cast <;> ring

theorem abs_value (form : Scaled) :
    |form.value| = (form.mantissa : ℚ) / 10 ^ form.scale := by
  have nonneg : (0 : ℚ) ≤ (form.mantissa : ℚ) / 10 ^ form.scale := by
    positivity
  rw [value_eq]
  split
  · rw [neg_one_mul, abs_neg, abs_of_nonneg nonneg]
  · rw [one_mul, abs_of_nonneg nonneg]

end Scaled

namespace Decimal

/-- The sign in front of a magnitude. -/
def signCharacters (negative : Bool) : List Char :=
  if negative then ['-'] else []

/-- A magnitude that begins with a digit is read after its sign. -/
theorem readPositional_signed
    (negative : Bool)
    {first : Char}
    {rest : List Char}
    (digit : isDigit first = true) :
    readPositional (signCharacters negative ++ first :: rest) =
      readDigits (signedZero negative) false false (first :: rest) := by
  cases negative with
  | true =>
      rfl
  | false =>
      exact readPositional_of_digit digit

/-- Digits before the point are read onto zero. -/
theorem readDigits_whole
    (negative : Bool)
    {whole : List Char}
    (nonempty : whole ≠ [])
    (digits : ∀ character ∈ whole, isDigit character = true)
    (fits : Nat.ofDigitChars 10 whole 0 ≤ maxCoefficient)
    (rest : List Char) :
    readDigits (signedZero negative) false false (whole ++ rest) =
      readDigits
        ⟨negative, Nat.ofDigitChars 10 whole 0, 0, fits, Nat.zero_le _⟩
        false true rest := by
  refine readDigits_append digits ?_ ?_ ?_ ?_ rest
  · rfl
  · rfl
  · rfl
  · simp [nonempty]

theorem readDigits_point (form : Scaled) (seen : Bool) (rest : List Char) :
    readDigits form false seen ('.' :: rest) =
      readDigits form true seen rest :=
  rfl

/-- Digits with a point in them are read as the number without the point. -/
theorem readDigits_pointed
    (negative : Bool)
    {whole fraction : List Char}
    (nonempty : whole ≠ [])
    (digits : ∀ character ∈ whole ++ fraction, isDigit character = true)
    (fits : Nat.ofDigitChars 10 (whole ++ fraction) 0 ≤ maxCoefficient)
    (short : fraction.length ≤ maxScale)
    (rest : List Char) :
    readDigits (signedZero negative) false false
        (whole ++ '.' :: (fraction ++ rest)) =
      readDigits
        ⟨negative, Nat.ofDigitChars 10 (whole ++ fraction) 0,
          fraction.length, fits, short⟩
        true true rest := by
  rw [List.forall_mem_append] at digits
  have wholeFits : Nat.ofDigitChars 10 whole 0 ≤ maxCoefficient := by
    rw [Nat.ofDigitChars_append] at fits
    exact (le_ofDigitChars fraction _).trans fits
  rw [readDigits_whole negative nonempty digits.1 wholeFits]
  refine (readDigits_point ..).trans
    (readDigits_append digits.2 ?_ ?_ ?_ ?_ rest)
  · rfl
  · exact Nat.ofDigitChars_append ..
  · simp
  · rfl

/-! ## Digits beyond those that fit -/

theorem checkTail_of_isDigit
    {characters : List Char}
    (digits : ∀ character ∈ characters, isDigit character = true) :
    checkTail characters = .ok () := by
  induction characters with
  | nil =>
      rfl
  | cons first rest inductionHypothesis =>
      rw [List.forall_mem_cons] at digits
      rw [checkTail, if_pos (.inl (by
        rw [digitValue?_of_isDigit digits.1]
        rfl))]
      exact inductionHypothesis digits.2

/-- A magnitude has no digits beyond its scale. -/
theorem exists_abs_value_mul
    {number : Decimal}
    {scale : ℕ}
    (fine : number.scale ≤ scale) :
    ∃ natural : ℕ, |number.value| * 10 ^ scale = natural := by
  obtain ⟨missing, shape⟩ := Nat.exists_eq_add_of_le fine
  refine ⟨number.coefficient.natAbs * 10 ^ missing, ?_⟩
  have power : (0 : ℚ) < 10 ^ number.scale := by
    positivity
  unfold value
  rw [abs_div, abs_of_pos power, shape, pow_add]
  push_cast
  rw [Nat.cast_natAbs, Int.cast_abs]
  field_simp

theorem ofDigitChars_lt
    {characters : List Char}
    (digits : ∀ character ∈ characters, isDigit character = true) :
    Nat.ofDigitChars 10 characters 0 < 10 ^ characters.length := by
  induction characters with
  | nil =>
      decide
  | cons first rest inductionHypothesis =>
      rw [List.forall_mem_cons] at digits
      have later := inductionHypothesis digits.2
      have small : first.toNat - '0'.toNat < 10 := by
        have isDigit := digits.1
        simp only [Text.isDigit, decide_eq_true_eq] at isDigit
        have upper : first.toNat ≤ 57 := isDigit.2
        have zero : '0'.toNat = 48 := rfl
        omega
      rw [Nat.ofDigitChars_cons, Nat.ofDigitChars_eq_ofDigitChars_zero,
        List.length_cons, pow_succ]
      nlinarith

/--
The digits that are left are zeros when the magnitude has none at a finer
scale.
-/
theorem tail_eq_zero
    {number : Decimal}
    {mantissa scale tail length : ℕ}
    (exact :
      ((10 ^ length * mantissa + tail : ℕ) : ℚ) / 10 ^ (scale + length) =
        |number.value|)
    (small : tail < 10 ^ length)
    (fine : number.scale ≤ scale) :
    tail = 0 ∧ (mantissa : ℚ) / 10 ^ scale = |number.value| := by
  obtain ⟨natural, isNatural⟩ := exists_abs_value_mul fine
  have same : 10 ^ length * mantissa + tail = 10 ^ length * natural := by
    rw [← exact, pow_add] at isNatural
    field_simp at isNatural
    exact_mod_cast isNatural
  have noTail : tail = 0 := by
    have divided := congrArg (· % 10 ^ length) same
    simp only [Nat.mul_add_mod, Nat.mul_mod_right] at divided
    rwa [Nat.mod_eq_of_lt small] at divided
  refine ⟨noTail, ?_⟩
  rw [← exact, noTail, pow_add]
  push_cast
  field_simp
  simp

/--
Digits that do not fit show that the number has few digits after the point.
-/
theorem scale_le_of_not_fits
    {number : Decimal}
    {mantissa scale tail length : ℕ}
    (exact :
      ((10 ^ length * mantissa + tail : ℕ) : ℚ) /
          10 ^ (scale + 1 + length) =
        |number.value|)
    (beyond : maxCoefficient < mantissa) :
    number.scale ≤ scale := by
  by_contra finer
  have bounded := number.abs_value_le_at_scale
  have larger : (maxCoefficient : ℚ) < mantissa := by
    exact_mod_cast beyond
  have reached :
      (maxCoefficient : ℚ) / 10 ^ number.scale < |number.value| := by
    calc
      (maxCoefficient : ℚ) / 10 ^ number.scale ≤
          (maxCoefficient : ℚ) / 10 ^ (scale + 1) := by
        gcongr
        · norm_num
        · omega
      _ < (mantissa : ℚ) / 10 ^ (scale + 1) := by
        gcongr
      _ = ((10 ^ length * mantissa : ℕ) : ℚ) /
          10 ^ (scale + 1 + length) := by
        rw [pow_add _ (scale + 1)]
        push_cast
        field_simp
      _ ≤ |number.value| := by
        rw [← exact]
        gcongr
        omega
  exact absurd bounded (not_le.mpr reached)

/-- Reading stops without loss where the digits that are left are all zeros. -/
theorem exists_finishAt
    {form : Scaled}
    {number : Decimal}
    {first : Char}
    {rest : List Char}
    (digits : ∀ character ∈ first :: rest, isDigit character = true)
    (exact :
      (Nat.ofDigitChars 10 (first :: rest) form.mantissa : ℚ) /
          10 ^ (form.scale + (first :: rest).length) =
        |number.value|)
    (fine : number.scale ≤ form.scale) :
    ∃ final,
      finishAt (first.toNat - '0'.toNat) form rest = .ok final ∧
        final.negative = form.negative ∧
        (final.mantissa : ℚ) / 10 ^ final.scale = |number.value| := by
  rw [Nat.ofDigitChars_eq_ofDigitChars_zero] at exact
  obtain ⟨noTail, kept⟩ := tail_eq_zero exact (ofDigitChars_lt digits) fine
  rw [Nat.ofDigitChars_cons] at noTail
  have isZero : first.toNat - '0'.toNat = 0 := by
    have growth := le_ofDigitChars rest (10 * 0 + (first.toNat - '0'.toNat))
    omega
  refine ⟨form, ?_, rfl, kept⟩
  rw [isZero]
  rw [finishAt, roundAt, if_neg (by decide)]
  simp only [checkTail_of_isDigit (List.forall_mem_cons.mp digits).2]
  rfl

/--
Digits after the point that denote a decimal number are read as its magnitude,
also where not all of them fit.
-/
theorem exists_readDigits_fraction
    (form : Scaled)
    {number : Decimal}
    {characters : List Char}
    (digits : ∀ character ∈ characters, isDigit character = true)
    (exact :
      (Nat.ofDigitChars 10 characters form.mantissa : ℚ) /
          10 ^ (form.scale + characters.length) =
        |number.value|) :
    ∃ final,
      readDigits form true true characters = .ok final ∧
        final.negative = form.negative ∧
        (final.mantissa : ℚ) / 10 ^ final.scale = |number.value| := by
  induction characters generalizing form with
  | nil =>
      exact ⟨form, rfl, rfl, exact⟩
  | cons first rest inductionHypothesis =>
      have allDigits := digits
      rw [List.forall_mem_cons] at digits
      have finish := exists_finishAt allDigits exact
      rw [readDigits, digitValue?_of_isDigit digits.1]
      dsimp only
      by_cases full : form.scale = maxScale
      · rw [dif_neg (by simpa using full)]
        exact finish (full ▸ number.scale_le)
      rw [dif_pos (by simpa using full)]
      by_cases fits :
          10 * form.mantissa + (first.toNat - '0'.toNat) ≤ maxCoefficient
      · rw [dif_pos fits]
        refine inductionHypothesis _ digits.2 ?_
        rw [← exact, Nat.ofDigitChars_cons, List.length_cons]
        congr 2
        simp only [if_true]
        omega
      · rw [dif_neg fits, if_pos rfl]
        rw [Nat.ofDigitChars_cons, Nat.ofDigitChars_eq_ofDigitChars_zero,
          List.length_cons, ← Nat.add_assoc, Nat.add_right_comm] at exact
        exact finish (scale_le_of_not_fits exact (not_le.mp fits))

/-! ## Exponents -/

variable {negative : Bool} {form : Scaled}

/-- A positional text is read without regard to exponents. -/
theorem readForm_of_readPositional
    {characters : List Char}
    (accepted : readPositional characters = .ok form) :
    readForm characters = .ok form := by
  rw [readForm, accepted]

/--
Some digits, with a point in them or not, that are read as a written form.
-/
structure ReadsAs (characters : List Char) (form : Scaled) : Prop where
  startsWithDigit :
    ∃ first rest, characters = first :: rest ∧ isDigit first = true
  digitOrPoint :
    ∀ character ∈ characters, isDigit character = true ∨ character = '.'
  reads :
    ∃ point, ∀ rest,
      readDigits (signedZero form.negative) false false (characters ++ rest) =
        readDigits form point true rest

/-- Digits are read as they are. -/
theorem readsAs_whole
    {whole : List Char}
    (nonempty : whole ≠ [])
    (digits : ∀ character ∈ whole, isDigit character = true)
    (fits : Nat.ofDigitChars 10 whole 0 ≤ maxCoefficient) :
    ReadsAs whole
      ⟨negative, Nat.ofDigitChars 10 whole 0, 0, fits, Nat.zero_le _⟩ where
  startsWithDigit := by
    obtain ⟨first, rest, shape⟩ := List.exists_cons_of_ne_nil nonempty
    exact ⟨first, rest, shape, digits first (by simp [shape])⟩
  digitOrPoint := fun character member => .inl (digits character member)
  reads := ⟨false, readDigits_whole negative nonempty digits fits⟩

/--
Digits with a point are read without it, and their number after it is kept.
-/
theorem readsAs_pointed
    {whole fraction : List Char}
    (nonempty : whole ≠ [])
    (digits : ∀ character ∈ whole ++ fraction, isDigit character = true)
    (fits : Nat.ofDigitChars 10 (whole ++ fraction) 0 ≤ maxCoefficient)
    (short : fraction.length ≤ maxScale) :
    ReadsAs (whole ++ '.' :: fraction)
      ⟨negative, Nat.ofDigitChars 10 (whole ++ fraction) 0,
        fraction.length, fits, short⟩ where
  startsWithDigit := by
    obtain ⟨first, rest, shape⟩ := List.exists_cons_of_ne_nil nonempty
    exact ⟨first, rest ++ '.' :: fraction, by rw [shape, List.cons_append],
      digits first (by simp [shape])⟩
  digitOrPoint := by
    intro character member
    rcases List.mem_append.mp member with before | after
    · exact .inl (digits character (List.mem_append_left _ before))
    · rcases List.mem_cons.mp after with point | after
      · exact .inr point
      · exact .inl (digits character (List.mem_append_right _ after))
  reads := ⟨true, fun rest => by
    rw [List.append_assoc, List.cons_append]
    exact readDigits_pointed negative nonempty digits fits short rest⟩

namespace ReadsAs

variable {characters : List Char}

theorem isExponentMark_of_mem
    (readsAs : ReadsAs characters form)
    {character : Char}
    (member : character ∈ characters) :
    isExponentMark character = false := by
  rcases readsAs.digitOrPoint character member with digit | rfl
  · exact isExponentMark_of_isDigit digit
  · rfl

theorem isBlank_of_mem
    (readsAs : ReadsAs characters form)
    {character : Char}
    (member : character ∈ characters) :
    isBlank character = false := by
  rcases readsAs.digitOrPoint character member with digit | rfl
  · exact isBlank_of_isDigit digit
  · rfl

theorem readPositional_append
    (readsAs : ReadsAs characters form) :
    ∃ point, ∀ rest,
      readPositional (signCharacters form.negative ++ (characters ++ rest)) =
        readDigits form point true rest := by
  obtain ⟨first, later, shape, digit⟩ := readsAs.startsWithDigit
  obtain ⟨point, reads⟩ := readsAs.reads
  refine ⟨point, fun rest => ?_⟩
  rw [← reads rest, shape, List.cons_append, readPositional_signed _ digit]

/-- Without an exponent the form is what is read. -/
theorem readForm_eq
    (readsAs : ReadsAs characters form) :
    readForm (signCharacters form.negative ++ characters) = .ok form := by
  obtain ⟨point, reads⟩ := readsAs.readPositional_append
  have accepted := reads []
  rw [List.append_nil] at accepted
  exact readForm_of_readPositional accepted

/-- With an exponent the point of the form is moved. -/
theorem readForm_exponent
    (readsAs : ReadsAs characters form)
    (exponent : List Char) :
    readForm
        (signCharacters form.negative ++ (characters ++ 'e' :: exponent)) =
      applyExponent form exponent := by
  obtain ⟨point, reads⟩ := readsAs.readPositional_append
  have stopped := reads ('e' :: exponent)
  have accepted := reads []
  rw [List.append_nil] at accepted
  have refused :
      readDigits form point true ('e' :: exponent) =
        .error .unknownCharacter := by
    cases point <;> rfl
  have plain :
      ∀ character ∈ signCharacters form.negative ++ characters,
        (!isExponentMark character) = true := by
    intro character member
    rcases List.mem_append.mp member with sign | digit
    · unfold signCharacters at sign
      split at sign
      · rw [List.mem_singleton.mp sign]
        rfl
      · contradiction
    · rw [readsAs.isExponentMark_of_mem digit]
      rfl
  have marked :
      (signCharacters form.negative ++ (characters ++ 'e' :: exponent)).any
        isExponentMark = true := by
    refine List.any_eq_true.mpr ⟨'e', by simp, rfl⟩
  rw [readForm, stopped, refused]
  simp only [marked, if_true]
  rw [readScientific, ← List.append_assoc,
    List.takeWhile_append_of_pos plain, List.dropWhile_append_of_pos plain]
  simp only [List.takeWhile_cons, List.dropWhile_cons]
  rw [show isExponentMark 'e' = true from rfl]
  simp only [Bool.not_true, Bool.false_eq_true, if_false, List.append_nil,
    accepted]
  rfl

end ReadsAs

end Decimal

end LiquidityReturns
