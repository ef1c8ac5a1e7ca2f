import Mathlib
import LiquidityReturns.Codec.Ledger
import LiquidityReturns.Proofs.Decimal.Value
import LiquidityReturns.Proofs.Text.Trim

namespace LiquidityReturns

/-!
# Canonical texts of decimal numbers

The canonical text of a number stays within the digits that the reader keeps:
its mantissa is that of the number, so no digit is ever rounded or refused.
Reading it therefore gives the number back, and numbers of different values
have different texts.
-/

open Text

/--
A text of canonical shape, by its parts: the sign, the digits before the point
and the digits after it.  A text without digits after the point has no point.
-/
structure CanonicalShape where
  negative : Bool
  whole : List Char
  fraction : List Char
  whole_ne_nil : whole ≠ []
  isDigit_whole : ∀ character ∈ whole, isDigit character = true
  isDigit_fraction : ∀ character ∈ fraction, isDigit character = true
  last_ne_zero : fraction.getLast? ≠ some '0'

namespace CanonicalShape

/-- A point before some digits, or nothing when there are none. -/
def pointed : List Char → List Char
  | [] =>
      []
  | digits =>
      '.' :: digits

/-- The characters of a text of canonical shape. -/
def characters (shape : CanonicalShape) : List Char :=
  (if shape.negative then ['-'] else []) ++ shape.whole ++
    pointed shape.fraction

/-- Only digits, the point and the minus sign occur in a canonical text. -/
theorem mem_characters
    {shape : CanonicalShape}
    {character : Char}
    (member : character ∈ shape.characters) :
    isDigit character = true ∨ character = '.' ∨ character = '-' := by
  unfold characters at member
  simp only [List.mem_append] at member
  rcases member with (sign | whole) | fraction
  · split at sign
    · exact .inr (.inr (List.mem_singleton.mp sign))
    · simp at sign
  · exact .inl (shape.isDigit_whole character whole)
  · unfold pointed at fraction
    split at fraction
    · simp at fraction
    · rcases List.mem_cons.mp fraction with point | digit
      · exact .inr (.inl point)
      · exact .inl (shape.isDigit_fraction character digit)

end CanonicalShape

namespace Decimal

theorem isDigit_of_mem_fractionDigits
    {fraction scale : Nat}
    {character : Char}
    (member : character ∈ fractionDigits fraction scale) :
    isDigit character = true := by
  rcases List.mem_append.mp member with padding | digit
  · rw [List.eq_of_mem_replicate padding]
    rfl
  · exact isDigit_of_mem_digits digit

/-- A fraction has as many digits as its scale says. -/
theorem length_fractionDigits
    {fraction scale : Nat}
    (fits : fraction < 10 ^ (scale + 1)) :
    (fractionDigits fraction (scale + 1)).length = scale + 1 := by
  have short : (Nat.toDigits 10 fraction).length ≤ scale + 1 :=
    (Nat.length_toDigits_le_iff (by decide) (by omega)).mpr fits
  simp only [fractionDigits, List.length_append, List.length_replicate]
  omega

/-- Digits of a fraction are read onto a number like any other digits. -/
theorem ofDigitChars_fractionDigits
    {fraction scale : Nat}
    (fits : fraction < 10 ^ (scale + 1))
    (start : Nat) :
    Nat.ofDigitChars 10 (fractionDigits fraction (scale + 1)) start =
      10 ^ (scale + 1) * start + fraction := by
  rw [Nat.ofDigitChars_eq_ofDigitChars_zero, length_fractionDigits fits]
  congr 1
  unfold fractionDigits
  rw [Nat.ofDigitChars_append, Nat.ofDigitChars_replicate_zero,
    Nat.mul_zero]
  exact Nat.ofDigitChars_ten_toDigits

/-- The last digit of a fraction is its remainder by ten. -/
theorem getLast?_fractionDigits (fraction scale : Nat) :
    (fractionDigits fraction scale).getLast? =
      some (fraction % 10).digitChar := by
  have last := getLast?_digits fraction
  unfold digits at last
  unfold fractionDigits
  rw [List.getLast?_append, last]
  rfl

/--
Digits that still fit are appended to the mantissa.  The form that they lead
to is a form of its own, so its bounds say that every step fits.
-/
theorem readDigits_append
    {start final : Scaled}
    {point seen shown : Bool}
    {characters : List Char}
    (digits : ∀ character ∈ characters, isDigit character = true)
    (sign : final.negative = start.negative)
    (mantissa :
      final.mantissa = Nat.ofDigitChars 10 characters start.mantissa)
    (scale :
      final.scale =
        if point then start.scale + characters.length else start.scale)
    (shows : shown = (seen || !characters.isEmpty))
    (rest : List Char) :
    readDigits start point seen (characters ++ rest) =
      readDigits final point shown rest := by
  induction characters generalizing start seen with
  | nil =>
      have same : final = start := by
        cases start
        cases final
        simp_all [Nat.ofDigitChars]
      simp [same, shows]
  | cons first later inductionHypothesis =>
      rw [List.forall_mem_cons] at digits
      rw [Nat.ofDigitChars_cons] at mantissa
      have fits :
          10 * start.mantissa + (first.toNat - '0'.toNat) ≤
            maxCoefficient :=
        (le_ofDigitChars later _).trans
          (mantissa ▸ final.mantissa_le)
      have room : ¬ (point = true ∧ start.scale = maxScale) := by
        rintro ⟨fractional, full⟩
        have bound := final.scale_le
        rw [scale, if_pos fractional, List.length_cons] at bound
        omega
      rw [List.cons_append, readDigits, digitValue?_of_isDigit digits.1]
      simp only [dif_pos room, dif_pos fits]
      refine inductionHypothesis digits.2 ?_ ?_ ?_ ?_
      · exact sign
      · exact mantissa
      · rw [scale]
        cases point
        · rfl
        · simp only [if_true, List.length_cons]
          omega
      · simp [shows]

/-- Reading a magnitude gives its mantissa and its scale. -/
theorem readDigits_magnitudeText (form : Scaled) :
    readDigits (signedZero form.negative) false false
        (magnitudeText form.mantissa form.scale) =
      .ok form := by
  rcases form with ⟨negative, mantissa, scale, mantissa_le, scale_le⟩
  cases scale with
  | zero =>
      have whole :
          readDigits (signedZero negative) false false
              (digits mantissa ++ []) =
            readDigits ⟨negative, mantissa, 0, mantissa_le, scale_le⟩ false
              true [] := by
        refine readDigits_append ?_ ?_ ?_ ?_ ?_ []
        · exact fun _ member => isDigit_of_mem_digits member
        · rfl
        · exact Nat.ofDigitChars_ten_toDigits.symm
        · rfl
        · simp [digits_ne_nil]
      rw [List.append_nil] at whole
      exact whole
  | succ scale =>
      let integral : Scaled :=
        ⟨negative, mantissa / 10 ^ (scale + 1), 0,
          (Nat.div_le_self ..).trans mantissa_le, Nat.zero_le _⟩
      let fraction :=
        fractionDigits (mantissa % 10 ^ (scale + 1)) (scale + 1)
      have fractionBound :
          mantissa % 10 ^ (scale + 1) < 10 ^ (scale + 1) :=
        Nat.mod_lt _ (by positivity)
      have wholeRead :
          readDigits (signedZero negative) false false
              (digits integral.mantissa ++ '.' :: fraction) =
            readDigits integral false true ('.' :: fraction) := by
        refine readDigits_append ?_ ?_ ?_ ?_ ?_ _
        · exact fun _ member => isDigit_of_mem_digits member
        · rfl
        · exact Nat.ofDigitChars_ten_toDigits.symm
        · rfl
        · simp [digits_ne_nil]
      have fractionRead :
          readDigits integral true true (fraction ++ []) =
            readDigits
              ⟨negative, mantissa, scale + 1, mantissa_le, scale_le⟩
              true true [] := by
        refine readDigits_append ?_ ?_ ?_ ?_ ?_ []
        · exact fun _ member => isDigit_of_mem_fractionDigits member
        · rfl
        · exact ((ofDigitChars_fractionDigits fractionBound _).trans
            (Nat.div_add_mod ..)).symm
        · simp [fraction, integral, length_fractionDigits fractionBound]
        · rfl
      rw [List.append_nil] at fractionRead
      calc
        readDigits (signedZero negative) false false
              (magnitudeText mantissa (scale + 1)) =
            readDigits integral false true ('.' :: fraction) :=
          wholeRead
        _ = readDigits integral true true fraction := by
          rfl
        _ = .ok ⟨negative, mantissa, scale + 1, mantissa_le, scale_le⟩ :=
          fractionRead

/-- A magnitude begins with a digit. -/
theorem exists_digit_magnitudeText (mantissa scale : Nat) :
    ∃ first rest,
      magnitudeText mantissa scale = first :: rest ∧
        isDigit first = true := by
  have leading (number : Nat) (tail : List Char) :
      ∃ first rest,
        digits number ++ tail = first :: rest ∧ isDigit first = true := by
    obtain ⟨first, rest, shape, digit⟩ := exists_first_digit number
    exact ⟨first, rest ++ tail, by rw [shape, List.cons_append], digit⟩
  cases scale with
  | zero =>
      have whole := leading mantissa []
      rwa [List.append_nil] at whole
  | succ scale =>
      exact leading _ _

/-- A text that begins with a digit is read without a sign. -/
theorem readPositional_of_digit
    {first : Char}
    {rest : List Char}
    (digit : isDigit first = true) :
    readPositional (first :: rest) =
      readDigits (signedZero false) false false (first :: rest) := by
  unfold readPositional
  split
  · contradiction
  · rename_i shape
    rw [(List.cons.inj shape).1] at digit
    contradiction
  · rename_i shape
    rw [(List.cons.inj shape).1] at digit
    contradiction
  · rfl

end Decimal

namespace Scaled

/-- A number in lowest terms as a written form. -/
def ofDecimal (number : Decimal) : Scaled where
  negative := number.isNegative
  mantissa := number.coefficient.natAbs
  scale := number.scale
  mantissa_le := number.coefficient_le
  scale_le := number.scale_le

theorem coefficient_ofDecimal (number : Decimal) :
    (ofDecimal number).coefficient = number.coefficient := by
  simp only [coefficient, ofDecimal, Decimal.isNegative,
    decide_eq_true_eq]
  split <;> omega

/--
Nothing is left to reduce in the written form of a number in lowest terms.
-/
theorem toDecimal_ofDecimal (number : Decimal) :
    (ofDecimal number).toDecimal = number := by
  have same : (ofDecimal number).value = number.value := by
    unfold value
    rw [coefficient_ofDecimal]
    rfl
  apply Decimal.value_injective
  rw [← same]
  exact Decimal.value_reduce ..

/-- The number of a written form has the value of the form. -/
theorem value_toDecimal (form : Scaled) :
    form.toDecimal.value = form.value :=
  Decimal.value_reduce ..

end Scaled

namespace Decimal

/-- The reader takes the canonical text for exactly the number's own form. -/
theorem readPositional_characters (number : Decimal) :
    readPositional number.characters = .ok (Scaled.ofDecimal number) := by
  have magnitude := readDigits_magnitudeText (Scaled.ofDecimal number)
  unfold characters
  simp only [Scaled.ofDecimal] at magnitude ⊢
  cases sign : number.isNegative with
  | true =>
      rw [sign] at magnitude
      exact magnitude
  | false =>
      rw [sign] at magnitude
      obtain ⟨first, rest, shape, digit⟩ :=
        exists_digit_magnitudeText number.coefficient.natAbs number.scale
      simp only [Bool.false_eq_true, if_false]
      rw [shape] at magnitude ⊢
      rw [readPositional_of_digit digit, magnitude]

/-- The canonical text of a number reads as the number. -/
theorem readStrict_text (number : Decimal) :
    readStrict number.text = .ok number := by
  unfold readStrict text
  rw [String.toList_ofList, readForm, readPositional_characters]
  exact congrArg Except.ok (Scaled.toDecimal_ofDecimal number)

/-- The magnitude of a form in lowest terms has the canonical shape. -/
theorem exists_shape_magnitude
    (negative : Bool)
    {mantissa scale : Nat}
    (lowest : scale = 0 ∨ mantissa % 10 ≠ 0) :
    ∃ shape : CanonicalShape,
      shape.negative = negative ∧
        magnitudeText mantissa scale =
          shape.whole ++ CanonicalShape.pointed shape.fraction := by
  cases scale with
  | zero =>
      refine ⟨{
        negative
        whole := digits mantissa
        fraction := []
        whole_ne_nil := digits_ne_nil _
        isDigit_whole := fun _ member => isDigit_of_mem_digits member
        isDigit_fraction := by simp
        last_ne_zero := by simp
      }, rfl, ?_⟩
      exact (List.append_nil _).symm
  | succ scale =>
      have lastDigit :
          mantissa % 10 ^ (scale + 1) % 10 = mantissa % 10 :=
        Nat.mod_mod_of_dvd _ (Dvd.intro_left _ (pow_succ 10 scale).symm)
      have notZero : mantissa % 10 ≠ 0 := by
        omega
      obtain ⟨first, rest, nonempty⟩ :=
        List.exists_cons_of_length_eq_add_one
          (length_fractionDigits
            (Nat.mod_lt mantissa (by positivity : 0 < 10 ^ (scale + 1))))
      refine ⟨{
        negative
        whole := digits (mantissa / 10 ^ (scale + 1))
        fraction :=
          fractionDigits (mantissa % 10 ^ (scale + 1)) (scale + 1)
        whole_ne_nil := digits_ne_nil _
        isDigit_whole := fun _ member => isDigit_of_mem_digits member
        isDigit_fraction :=
          fun _ member => isDigit_of_mem_fractionDigits member
        last_ne_zero := by
          rw [getLast?_fractionDigits, lastDigit]
          simpa using notZero
      }, rfl, ?_⟩
      simp only [magnitudeText, Nat.pow_eq, nonempty,
        CanonicalShape.pointed]
      rfl

/-- The canonical text of a number has the canonical shape, with its sign. -/
theorem exists_shape (number : Decimal) :
    ∃ shape : CanonicalShape,
      number.characters = shape.characters ∧
        shape.negative = number.isNegative := by
  have lowest : number.scale = 0 ∨ number.coefficient.natAbs % 10 ≠ 0 := by
    have lowest := number.lowest
    omega
  obtain ⟨shape, sign, magnitude⟩ :=
    exists_shape_magnitude number.isNegative lowest
  refine ⟨shape, ?_, sign⟩
  unfold characters CanonicalShape.characters
  simp only [magnitude, sign]
  split <;> rfl

/-- A canonical text holds no blank, so trimming leaves it alone. -/
theorem trim_text (number : Decimal) : trim number.text = number.text := by
  obtain ⟨shape, same, _⟩ := number.exists_shape
  refine trim_ofList ?_
  intro character member
  rw [same] at member
  rcases CanonicalShape.mem_characters member with digit | rfl | rfl
  · exact isBlank_of_isDigit digit
  · rfl
  · rfl

/--
The canonical text of a number reads as the number, also where blanks would be
admitted.
-/
theorem read_text (number : Decimal) : read number.text = .ok number := by
  rw [read, trim_text, readStrict_text]

/-- The JSON form of a number reads as the number. -/
theorem ofJson?_toJson (number : Decimal) :
    ofJson? number.toJson = some number := by
  change (readStrict number.text).toOption = some number
  rw [readStrict_text]
  rfl

/-- Numbers with one text are the same number. -/
theorem text_injective : Function.Injective text := by
  intro left right same
  have read := left.readStrict_text
  rw [same, readStrict_text] at read
  exact (Except.ok.inj read).symm

theorem isExponentMark_of_isDigit
    {character : Char}
    (digit : isDigit character = true) :
    isExponentMark character = false := by
  refine decide_eq_false ?_
  rintro (rfl | rfl) <;> contradiction

/-- The value of a number is negative exactly when the number is. -/
theorem isNegative_iff_value (number : Decimal) :
    number.isNegative = true ↔ number.value < 0 := by
  have power : (0 : ℚ) < 10 ^ number.scale := by
    positivity
  rw [isNegative_iff, value, div_lt_iff₀ power, zero_mul]
  exact Int.cast_lt_zero.symm

/--
Every written form reads back from its canonical text and from its JSON form.
The text has no exponent, no trailing point, no trailing zero after the point,
always a digit before the point, and a minus sign only below zero.  Forms have
the same value exactly when they have the same text, and a text that is
accepted at all keeps its number when it is made canonical.
-/
theorem canonical_text_faithful :
    (∀ form : Scaled,
      read form.toDecimal.text = .ok form.toDecimal ∧
        ofJson? form.toDecimal.toJson = some form.toDecimal ∧
        form.toDecimal.value = form.value ∧
        (∀ character ∈ form.toDecimal.text.toList,
          isExponentMark character = false) ∧
        ∃ shape : CanonicalShape,
          form.toDecimal.text.toList = shape.characters ∧
            (shape.negative = true ↔ form.value < 0)) ∧
    (∀ left right : Scaled,
      left.value = right.value ↔
        left.toDecimal.text = right.toDecimal.text) ∧
    ∀ text number,
      read text = .ok number → read number.text = .ok number := by
  refine ⟨?_, ?_, ?_⟩
  · intro form
    obtain ⟨shape, same, sign⟩ := form.toDecimal.exists_shape
    have written : form.toDecimal.text.toList = shape.characters := by
      rw [text, String.toList_ofList, same]
    refine ⟨read_text _, ofJson?_toJson _, form.value_toDecimal, ?_,
      shape, written, ?_⟩
    · intro character member
      rw [written] at member
      rcases CanonicalShape.mem_characters member with digit | rfl | rfl
      · exact isExponentMark_of_isDigit digit
      · rfl
      · rfl
    · rw [sign, isNegative_iff_value, form.value_toDecimal]
  · intro left right
    rw [← left.value_toDecimal, ← right.value_toDecimal,
      ← eq_iff_value_eq]
    exact text_injective.eq_iff.symm
  · intro text number _
    exact read_text number

/-- A number with the largest coefficient and the largest scale. -/
def Sample.outermost : Decimal :=
  ⟨-79228162514264337593543950335, 28,
    by decide, by decide, .inr (by decide)⟩

/--
A text that is trimmed and rounded when it is read has a canonical text of the
same number.
-/
theorem canonical_text_faithful_sample :
    read " -7.92281625142643375935439503350_9 " = .ok Sample.outermost ∧
      Sample.outermost.text = "-7.9228162514264337593543950335" ∧
      read Sample.outermost.text = .ok Sample.outermost := by
  have accepted :
      read " -7.92281625142643375935439503350_9 " = .ok Sample.outermost := by
    rfl
  exact ⟨accepted, by decide +kernel,
    canonical_text_faithful.2.2 _ _ accepted⟩

end Decimal

end LiquidityReturns
