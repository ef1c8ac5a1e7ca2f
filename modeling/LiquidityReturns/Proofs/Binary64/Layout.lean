import Mathlib
import LiquidityReturns.Proofs.Binary64.Shortest
import LiquidityReturns.Proofs.Decimal.WrittenDigits

namespace LiquidityReturns.Binary64

/-!
# Laid out digits read back

Near 1 the digits of a magnitude are laid out with a point, and far from it in
scientific notation.  The reader of decimal numbers tries the positional
reading first, which stops at the exponent mark, and then moves the point.  It
gives the digits back exactly unless the exponent asks for more places than a
decimal number has, and it never gives more digits than were written.
-/

open Text Decimal

variable {digits : Digits} {negative : Bool}

/-- Digits laid out with a point and without an exponent. -/
structure LaidOutNear
    (digits : Digits)
    (negative : Bool)
    (form : Scaled) : Prop where
  readsAs : ReadsAs (layout digits) form
  sign : form.negative = negative
  mantissa_le : form.mantissa ≤ 10 ^ 17
  value_eq : (form.mantissa : ℚ) / 10 ^ form.scale = digits.value

/-- Digits laid out in scientific notation, with the point after the first. -/
structure LaidOutFar
    (digits : Digits)
    (negative : Bool)
    (form : Scaled) : Prop where
  far :
    16 ≤ form.scale + digits.exponent ∨ form.scale + digits.exponent < -5
  layout_eq :
    ∃ significand,
      layout digits =
          significand ++ 'e' :: signed (form.scale + digits.exponent) ∧
        ReadsAs significand form
  sign : form.negative = negative
  mantissa_eq : form.mantissa = digits.number
  pow_scale_le : 0 < digits.number → 10 ^ form.scale ≤ digits.number

/--
Digits on both sides of a point are laid out near when they denote the number.
-/
theorem exists_laidOutNear
    (whole fraction : List Char)
    (laidOut : layout digits = whole ++ '.' :: fraction)
    (nonempty : whole ≠ [])
    (allDigits :
      ∀ character ∈ whole ++ fraction, isDigit character = true)
    (mantissa_le : Nat.ofDigitChars 10 (whole ++ fraction) 0 ≤ 10 ^ 17)
    (short : fraction.length ≤ maxScale)
    (value_eq :
      (Nat.ofDigitChars 10 (whole ++ fraction) 0 : ℚ) /
          10 ^ fraction.length =
        digits.value) :
    ∃ form, LaidOutNear digits negative form := by
  have fits :
      Nat.ofDigitChars 10 (whole ++ fraction) 0 ≤ maxCoefficient :=
    mantissa_le.trans (by decide)
  exact ⟨_, {
    readsAs := laidOut ▸ readsAs_pointed nonempty allDigits fits short
    sign := rfl
    mantissa_le := mantissa_le
    value_eq := value_eq
  }⟩

section Cases

variable {written : List Char}

/-- The digits of a number, as they are laid out. -/
structure Written (digits : Digits) (written : List Char) : Prop where
  text_eq : Text.digits digits.number = written
  nonempty : written ≠ []
  allDigits : ∀ character ∈ written, isDigit character = true
  denotes : Nat.ofDigitChars 10 written 0 = digits.number
  number_lt : digits.number < 10 ^ written.length

theorem written_digits (digits : Digits) :
    Written digits (Text.digits digits.number) where
  text_eq := rfl
  nonempty := digits_ne_nil _
  allDigits := fun _ member => isDigit_of_mem_digits member
  denotes := Nat.ofDigitChars_ten_toDigits
  number_lt :=
    (Nat.length_toDigits_le_iff (by decide)
      (List.length_pos_iff.mpr (digits_ne_nil _))).mp le_rfl

theorem Written.length_le
    (shape : Written digits written)
    (small : digits.number ≤ 10 ^ 17) :
    written.length ≤ 18 := by
  rw [← shape.text_eq]
  exact (Nat.length_toDigits_le_iff (by decide) (by decide)).mpr (by omega)

theorem Written.pow_le
    (shape : Written digits written)
    (positive : 0 < digits.number) :
    10 ^ (written.length - 1) ≤ digits.number := by
  rcases Nat.eq_zero_or_pos (written.length - 1) with single | several
  · rwa [single]
  · have longer := (Nat.length_toDigits_le_iff (b := 10) (n := digits.number)
      (by decide) several).not
    rw [show Nat.toDigits 10 digits.number = written from shape.text_eq,
      not_le, not_lt] at longer
    exact longer.mp (by omega)

theorem allDigits_replicate (count : ℕ) :
    ∀ character ∈ List.replicate count '0', isDigit character = true := by
  intro character member
  rw [List.eq_of_mem_replicate member]
  rfl

/-- An integer is laid out with zeros up to the point and one after it. -/
theorem exists_laidOutNear_of_integer
    (shape : Written digits written)
    (integral : 0 ≤ digits.exponent)
    (near : written.length + digits.exponent ≤ 16) :
    ∃ form, LaidOutNear digits negative form := by
  obtain ⟨zeros, isZeros⟩ := Int.eq_ofNat_of_zero_le integral
  have places : written.length + zeros + 1 ≤ 17 := by
    omega
  have denotes :
      Nat.ofDigitChars 10 (written ++ List.replicate zeros '0' ++ ['0']) 0 =
        digits.number * 10 ^ zeros * 10 := by
    rw [Nat.ofDigitChars_append, Nat.ofDigitChars_append, shape.denotes,
      Nat.ofDigitChars_replicate_zero, Nat.ofDigitChars_cons,
      Nat.ofDigitChars_nil, Nat.sub_self, Nat.add_zero]
    ring
  have bounded : digits.number * 10 ^ zeros * 10 ≤ 10 ^ 17 := by
    calc
      digits.number * 10 ^ zeros * 10 ≤
          10 ^ written.length * 10 ^ zeros * 10 := by
        gcongr
        exact shape.number_lt.le
      _ = 10 ^ (written.length + zeros + 1) := by
        rw [pow_succ, pow_add]
      _ ≤ 10 ^ 17 := by
        gcongr
        norm_num
  refine exists_laidOutNear (written ++ List.replicate zeros '0') ['0']
    ?_ ?_ ?_ (denotes ▸ bounded) (by decide) ?_
  · rw [layout, shape.text_eq]
    simp only [isZeros] at near ⊢
    rw [if_pos ⟨Int.natCast_nonneg _, near⟩]
    simp
  · simp [shape.nonempty]
  · simp only [List.forall_mem_append]
    exact ⟨⟨shape.allDigits, allDigits_replicate zeros⟩,
      allDigits_replicate 1⟩
  · rw [denotes, Digits.value, isZeros]
    push_cast
    rw [zpow_natCast]
    simp

/--
A number with few digits after the point is laid out with the point among its
digits.
-/
theorem exists_laidOutNear_of_split
    (shape : Written digits written)
    (small : digits.number ≤ 10 ^ 17)
    (fractional : digits.exponent < 0)
    (above : 0 < written.length + digits.exponent)
    (near : written.length + digits.exponent ≤ 16) :
    ∃ form, LaidOutNear digits negative form := by
  obtain ⟨places, isPlaces⟩ :=
    Int.eq_ofNat_of_zero_le (neg_nonneg.mpr fractional.le)
  have bounded := shape.length_le small
  have point :
      (written.length + digits.exponent).toNat = written.length - places := by
    omega
  have together :
      written.take (written.length - places) ++
          written.drop (written.length - places) =
        written :=
    List.take_append_drop ..
  have length : (written.drop (written.length - places)).length = places := by
    rw [List.length_drop]
    omega
  refine exists_laidOutNear (written.take (written.length - places))
    (written.drop (written.length - places)) ?_ ?_ ?_ ?_ ?_ ?_
  · rw [layout, shape.text_eq]
    simp only
    rw [if_neg (fun integral => absurd integral.1 (not_le.mpr fractional)),
      if_pos ⟨above, near⟩, point]
  · rw [ne_eq, List.take_eq_nil_iff, not_or]
    exact ⟨by omega, shape.nonempty⟩
  · rw [together]
    exact shape.allDigits
  · rw [together, shape.denotes]
    exact small
  · rw [length, maxScale]
    omega
  · rw [together, shape.denotes, length, Digits.value,
      ← neg_neg digits.exponent, isPlaces, zpow_neg, zpow_natCast,
      div_eq_mul_inv]

/-- A number below 1 is laid out with zeros between the point and its digits. -/
theorem exists_laidOutNear_of_fraction
    (shape : Written digits written)
    (small : digits.number ≤ 10 ^ 17)
    (below : written.length + digits.exponent ≤ 0)
    (near : -5 < written.length + digits.exponent) :
    ∃ form, LaidOutNear digits negative form := by
  obtain ⟨zeros, isZeros⟩ :=
    Int.eq_ofNat_of_zero_le (neg_nonneg.mpr below)
  have bounded := shape.length_le small
  have someDigits := List.length_pos_iff.mpr shape.nonempty
  have denotes :
      Nat.ofDigitChars 10 (['0'] ++ (List.replicate zeros '0' ++ written)) 0 =
        digits.number := by
    rw [Nat.ofDigitChars_append, Nat.ofDigitChars_append,
      Nat.ofDigitChars_cons, Nat.ofDigitChars_nil, Nat.sub_self,
      Nat.ofDigitChars_replicate_zero, Nat.mul_zero, shape.denotes]
  have length : (List.replicate zeros '0' ++ written).length =
      zeros + written.length := by
    rw [List.length_append, List.length_replicate]
  have places :
      digits.exponent = -((zeros + written.length : ℕ) : ℤ) := by
    omega
  refine exists_laidOutNear ['0'] (List.replicate zeros '0' ++ written)
    ?_ (by decide) ?_ (denotes ▸ small) ?_ ?_
  · rw [layout, shape.text_eq]
    simp only
    rw [if_neg (fun integral => by omega), if_neg (fun split => by omega),
      if_pos ⟨near, below⟩, isZeros, Int.toNat_natCast]
    rfl
  · simp only [List.forall_mem_append]
    exact ⟨allDigits_replicate 1, allDigits_replicate zeros,
      shape.allDigits⟩
  · rw [length, maxScale]
    omega
  · rw [denotes, length, Digits.value, places, zpow_neg, zpow_natCast,
      div_eq_mul_inv]

/-- Any other number is laid out in scientific notation. -/
theorem exists_laidOutFar
    (shape : Written digits written)
    (small : digits.number ≤ 10 ^ 17)
    (far :
      16 < written.length + digits.exponent ∨
        written.length + digits.exponent ≤ -5) :
    ∃ form, LaidOutFar digits negative form := by
  have fits : Nat.ofDigitChars 10 written 0 ≤ maxCoefficient := by
    rw [shape.denotes]
    exact small.trans (by decide)
  have bounded := shape.length_le small
  have laidOut := layout.eq_1 digits
  rw [shape.text_eq] at laidOut
  simp only at laidOut
  rw [if_neg (fun integral => by omega), if_neg (fun split => by omega),
    if_neg (fun fraction => by omega)] at laidOut
  rcases written with _ | ⟨first, _ | ⟨second, rest⟩⟩
  · exact absurd rfl shape.nonempty
  · refine ⟨_, {
      far := ?_
      layout_eq :=
        ⟨[first], ?_, readsAs_whole shape.nonempty shape.allDigits fits⟩
      sign := rfl
      mantissa_eq := shape.denotes
      pow_scale_le := id
    }⟩
    · simp only [List.length_singleton] at far ⊢
      omega
    · rw [laidOut]
      congr 2
      simp
  · refine ⟨_, {
      far := ?_
      layout_eq :=
        ⟨[first] ++ '.' :: second :: rest, ?_,
          readsAs_pointed (by simp) shape.allDigits fits ?_⟩
      sign := rfl
      mantissa_eq := shape.denotes
      pow_scale_le := shape.pow_le
    }⟩
    · simp only [List.length_cons] at far ⊢
      push_cast at far ⊢
      omega
    · rw [laidOut]
      congr 3
      simp only [List.length_cons]
      push_cast
      ring
    · simp only [List.length_cons] at bounded
      rw [maxScale, List.length_cons]
      omega

end Cases

/-- The digits of every number are laid out in one of the two ways. -/
theorem exists_laidOut
    (small : digits.number ≤ 10 ^ 17)
    (negative : Bool) :
    (∃ form, LaidOutNear digits negative form) ∨
      ∃ form, LaidOutFar digits negative form := by
  have shape := written_digits digits
  obtain ⟨length, isLength⟩ :
      ∃ length, (Text.digits digits.number).length = length :=
    ⟨_, rfl⟩
  by_cases far :
      16 < length + digits.exponent ∨ length + digits.exponent ≤ -5
  · exact .inr (exists_laidOutFar shape small (isLength ▸ far))
  · left
    by_cases integral : 0 ≤ digits.exponent
    · exact exists_laidOutNear_of_integer shape integral (by omega)
    · by_cases above : 0 < length + digits.exponent
      · exact exists_laidOutNear_of_split shape small (by omega) (by omega)
          (by omega)
      · exact exists_laidOutNear_of_fraction shape small (by omega)
          (by omega)

/-! ## Reading laid out digits -/

/-- The digits of a small exponent are read as the exponent. -/
theorem exponentMagnitude?_digits
    {exponent : ℕ}
    (small : exponent < 2 ^ 32) :
    exponentMagnitude? (Text.digits exponent) = some exponent := by
  obtain ⟨first, rest, shape, digit⟩ := exists_first_digit exponent
  have unsigned : ∀ later, Text.digits exponent ≠ '+' :: later := by
    rintro later plus
    rw [shape] at plus
    rw [(List.cons.inj plus).1] at digit
    contradiction
  unfold exponentMagnitude?
  split
  rename_i plus
  · exact absurd plus (unsigned _)
  · simp only [numeral?_digits]
    simpa using small

/-- Moving the point to the left is exact while the digits fit. -/
theorem shiftLeft_of_fits
    {form : Scaled}
    {exponent : ℕ}
    (fits : form.scale + exponent ≤ maxScale) :
    shiftLeft exponent form =
      .ok { form with scale := form.scale + exponent, scale_le := fits } := by
  have unchanged : shortenTo (maxScale - exponent) form = form := by
    rw [shortenTo, dif_neg (by omega)]
  unfold shiftLeft
  rw [dif_pos (by omega)]
  simp only [unchanged]

/-- Below `10 ^ 16` only small numbers are laid out in scientific notation. -/
theorem LaidOutFar.below
    {form : Scaled}
    (laidOut : LaidOutFar digits negative form)
    (positive : 0 < digits.number)
    (bounded : digits.value < 10 ^ 16) :
    form.scale + digits.exponent < -5 := by
  refine laidOut.far.resolve_left fun above => ?_
  have least : (10 : ℚ) ^ form.scale ≤ digits.number := by
    exact_mod_cast laidOut.pow_scale_le positive
  have reached : (10 : ℚ) ^ 16 ≤ digits.value := by
    calc
      (10 : ℚ) ^ 16 ≤ 10 ^ (form.scale + digits.exponent) := by
        rw [← zpow_natCast]
        exact zpow_le_zpow_right₀ (by norm_num) (by exact_mod_cast above)
      _ = 10 ^ form.scale * 10 ^ digits.exponent := by
        rw [zpow_add₀ (by norm_num), zpow_natCast]
      _ ≤ digits.value := by
        unfold Digits.value
        gcongr
  exact absurd bounded (not_lt.mpr reached)

/-- Digits of a number that a decimal number can have are read exactly. -/
theorem exists_readForm_layout
    (positive : 0 < digits.number)
    (small : digits.number ≤ 10 ^ 17)
    (fine : -(maxScale : ℤ) ≤ digits.exponent)
    (bounded : digits.value < 10 ^ 16)
    (negative : Bool) :
    ∃ form,
      readForm (signCharacters negative ++ layout digits) = .ok form ∧
        form.negative = negative ∧
        (form.mantissa : ℚ) / 10 ^ form.scale = digits.value := by
  rcases exists_laidOut small negative with ⟨form, near⟩ | ⟨form, far⟩
  · refine ⟨form, ?_, near.sign, near.value_eq⟩
    rw [← near.sign]
    exact near.readsAs.readForm_eq
  · obtain ⟨significand, laidOut, readsAs⟩ := far.layout_eq
    have below := far.below positive bounded
    obtain ⟨places, isPlaces⟩ :=
      Int.eq_ofNat_of_zero_le
        (a := -(form.scale + digits.exponent)) (by omega)
    have fits : form.scale + places ≤ maxScale := by
      omega
    have written :
        signed (form.scale + digits.exponent) = '-' :: Text.digits places := by
      rw [signed, if_pos (by omega)]
      congr 2
      omega
    have small : places < 2 ^ 32 := by
      rw [maxScale] at fits
      omega
    refine ⟨{ form with scale := form.scale + places, scale_le := fits },
      ?_, far.sign, ?_⟩
    · rw [laidOut, written, ← far.sign, readsAs.readForm_exponent]
      rw [applyExponent, exponentMagnitude?_digits small]
      exact shiftLeft_of_fits fits
    · simp only [far.mantissa_eq, Digits.value]
      have moved :
          digits.exponent = -((form.scale + places : ℕ) : ℤ) := by
        omega
      rw [moved, zpow_neg, zpow_natCast, div_eq_mul_inv]

theorem isBlank_of_mem_signed
    {integer : ℤ}
    {character : Char}
    (member : character ∈ signed integer) :
    isBlank character = false := by
  unfold signed at member
  split at member
  · rcases List.mem_cons.mp member with rfl | digit
    · rfl
    · exact isBlank_of_isDigit (isDigit_of_mem_digits digit)
  · exact isBlank_of_isDigit (isDigit_of_mem_digits member)

/-- Laid out digits hold no blank. -/
theorem isBlank_of_mem_layout
    (small : digits.number ≤ 10 ^ 17)
    {character : Char}
    (member : character ∈ layout digits) :
    isBlank character = false := by
  rcases exists_laidOut small false with ⟨form, near⟩ | ⟨form, far⟩
  · exact near.readsAs.isBlank_of_mem member
  · obtain ⟨significand, laidOut, readsAs⟩ := far.layout_eq
    rw [laidOut] at member
    rcases List.mem_append.mp member with digit | exponent
    · exact readsAs.isBlank_of_mem digit
    · rcases List.mem_cons.mp exponent with rfl | exponent
      · rfl
      · exact isBlank_of_mem_signed exponent

/--
A number of at most seventeen significant digits; zeros at its end do not count.
-/
def HasFewDigits (number : ℚ) : Prop :=
  ∃ natural : ℕ, natural ≤ 10 ^ 17 ∧
    ∃ exponent : ℤ, |number| = natural * 10 ^ exponent

/--
A number whose digits do not end in a zero has as many as it is written with.
-/
theorem not_hasFewDigits
    {decimal : Decimal}
    (many : 10 ^ 17 < decimal.coefficient.natAbs)
    (lowest : ¬ 10 ∣ decimal.coefficient.natAbs) :
    ¬ HasFewDigits decimal.value := by
  rintro ⟨natural, small, exponent, shape⟩
  have power : (0 : ℚ) < 10 ^ decimal.scale := by
    positivity
  have scaled :
      (decimal.coefficient.natAbs : ℚ) =
        natural * 10 ^ (exponent + decimal.scale) := by
    rw [Decimal.value, abs_div, abs_of_pos power, div_eq_iff power.ne',
      ← Int.cast_abs, Int.abs_eq_natAbs, Int.cast_natCast] at shape
    rw [shape, zpow_add₀ (by norm_num), zpow_natCast, mul_assoc]
  rcases le_or_gt (exponent + decimal.scale) 0 with divided | multiplied
  · have below : (decimal.coefficient.natAbs : ℚ) ≤ natural := by
      rw [scaled]
      exact mul_le_of_le_one_right (Nat.cast_nonneg _)
        (zpow_le_one_of_nonpos₀ (by norm_num) divided)
    exact absurd (Nat.cast_le.mp below) (by omega)
  · obtain ⟨zeros, isZeros⟩ := Int.eq_succ_of_zero_lt multiplied
    refine lowest ⟨natural * 10 ^ zeros, ?_⟩
    rw [isZeros, zpow_add_one₀ (by norm_num), zpow_natCast] at scaled
    have product :
        decimal.coefficient.natAbs = natural * (10 ^ zeros * 10) := by
      exact_mod_cast scaled
    rw [product]
    ring

theorem hasFewDigits_of_mantissa_le
    {form : Scaled}
    (small : form.mantissa ≤ 10 ^ 17) :
    HasFewDigits form.value := by
  refine ⟨form.mantissa, small, -form.scale, ?_⟩
  rw [form.abs_value, zpow_neg, zpow_natCast, div_eq_mul_inv]

/-- Moving the point to the left never adds digits. -/
theorem mantissa_shiftLeft_le
    {form moved : Scaled}
    {exponent : ℕ}
    (accepted : shiftLeft exponent form = .ok moved) :
    moved.mantissa ≤ form.mantissa := by
  unfold shiftLeft at accepted
  split at accepted
  · cases accepted
    simp only
    unfold shortenTo
    split
    · have smaller :=
        Nat.div_le_self form.mantissa
          (Nat.pow 10 (form.scale - (maxScale - exponent) - 1))
      simp only
      omega
    · exact le_rfl
  · contradiction

/-- Moving the point to the right adds zeros at most. -/
theorem hasFewDigits_shiftRight
    {form moved : Scaled}
    {exponent : ℕ}
    (small : form.mantissa ≤ 10 ^ 17)
    (accepted : shiftRight exponent form = .ok moved) :
    HasFewDigits moved.value := by
  unfold shiftRight at accepted
  split_ifs at accepted <;> cases accepted
  · exact hasFewDigits_of_mantissa_le small
  · refine ⟨form.mantissa, small, (exponent - form.scale : ℕ), ?_⟩
    rw [Scaled.abs_value, pow_zero, div_one, zpow_natCast]
    simp only [Nat.pow_eq]
    push_cast
    rfl

theorem hasFewDigits_applyExponent
    {form moved : Scaled}
    {exponent : List Char}
    (small : form.mantissa ≤ 10 ^ 17)
    (accepted : applyExponent form exponent = .ok moved) :
    HasFewDigits moved.value := by
  unfold applyExponent at accepted
  split at accepted <;> split at accepted
  · contradiction
  · exact hasFewDigits_of_mantissa_le
      ((mantissa_shiftLeft_le accepted).trans small)
  · contradiction
  · exact hasFewDigits_shiftRight small accepted

/--
Whatever is read from laid out digits has no more digits than were written.
-/
theorem hasFewDigits_readForm_layout
    {form : Scaled}
    (small : digits.number ≤ 10 ^ 17)
    (accepted :
      readForm (signCharacters negative ++ layout digits) = .ok form) :
    HasFewDigits form.value := by
  rcases exists_laidOut small negative with ⟨other, near⟩ | ⟨other, far⟩
  · rw [← near.sign, near.readsAs.readForm_eq] at accepted
    cases accepted
    exact hasFewDigits_of_mantissa_le near.mantissa_le
  · obtain ⟨significand, laidOut, readsAs⟩ := far.layout_eq
    rw [laidOut, ← far.sign, readsAs.readForm_exponent] at accepted
    exact hasFewDigits_applyExponent (far.mantissa_eq ▸ small) accepted

end LiquidityReturns.Binary64
