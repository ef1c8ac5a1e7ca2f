import Mathlib
import LiquidityReturns.Text.Integer
import LiquidityReturns.Proofs.Outcome
import LiquidityReturns.Proofs.Text.Digits

namespace LiquidityReturns.Text

/-!
# Integer literals

A natural number may be written with a plus sign and with leading zeros, and
where the range goes below zero a minus sign may stand before the digits.
Each reader of integers accepts exactly these literals, within its limits; the
digits of an integer are one of its literals, so they read back.
-/

/-- The digits of a number, possibly after leading zeros. -/
structure DigitsOf (characters : List Char) (number : Nat) : Prop where
  nonempty : characters ≠ []
  allDigits : ∀ character ∈ characters, isDigit character = true
  value : Nat.ofDigitChars 10 characters 0 = number

/-- The literals of a natural number. -/
inductive NaturalLiteral : List Char → Nat → Prop where
  | unsigned
      {characters : List Char}
      {number : Nat}
      (digits : DigitsOf characters number) :
      NaturalLiteral characters number
  | plus
      {characters : List Char}
      {number : Nat}
      (digits : DigitsOf characters number) :
      NaturalLiteral ('+' :: characters) number

/-- The literals of an integer. -/
inductive IntegerLiteral : List Char → Int → Prop where
  | natural
      {characters : List Char}
      {number : Nat}
      (literal : NaturalLiteral characters number) :
      IntegerLiteral characters number
  | minus
      {characters : List Char}
      {number : Nat}
      (digits : DigitsOf characters number) :
      IntegerLiteral ('-' :: characters) (-(number : Int))

namespace DigitsOf

variable {first : Char} {rest : List Char} {number : Nat}

theorem first_isDigit (digits : DigitsOf (first :: rest) number) :
    isDigit first = true :=
  digits.allDigits first List.mem_cons_self

end DigitsOf

theorem not_naturalLiteral_nil (number : Nat) : ¬ NaturalLiteral [] number
  | .unsigned digits => digits.nonempty rfl

theorem naturalLiteral_plus_iff {rest : List Char} {number : Nat} :
    NaturalLiteral ('+' :: rest) number ↔ DigitsOf rest number := by
  constructor
  · intro literal
    cases literal with
    | unsigned digits =>
        exact absurd digits.first_isDigit (by decide)
    | plus digits =>
        exact digits
  · exact .plus

theorem naturalLiteral_iff_of_ne
    {first : Char}
    {rest : List Char}
    {number : Nat}
    (notPlus : first ≠ '+') :
    NaturalLiteral (first :: rest) number ↔
      DigitsOf (first :: rest) number := by
  constructor
  · intro literal
    cases literal with
    | unsigned digits =>
        exact digits
    | plus digits =>
        exact absurd rfl notPlus
  · exact .unsigned

theorem integerLiteral_minus_iff {rest : List Char} {integer : Int} :
    IntegerLiteral ('-' :: rest) integer ↔
      ∃ number, DigitsOf rest number ∧ -(number : Int) = integer := by
  constructor
  · intro literal
    cases literal with
    | natural literal =>
        have digits :=
          (naturalLiteral_iff_of_ne (by decide)).mp literal
        exact absurd digits.first_isDigit (by decide)
    | minus digits =>
        exact ⟨_, digits, rfl⟩
  · rintro ⟨number, digits, rfl⟩
    exact .minus digits

theorem integerLiteral_iff_of_not_minus
    {characters : List Char}
    {integer : Int}
    (notMinus : ∀ rest, characters ≠ '-' :: rest) :
    IntegerLiteral characters integer ↔
      ∃ number, NaturalLiteral characters number ∧
        (number : Int) = integer := by
  constructor
  · intro literal
    cases literal with
    | natural literal =>
        exact ⟨_, literal, rfl⟩
    | minus digits =>
        exact absurd rfl (notMinus _)
  · rintro ⟨number, literal, rfl⟩
    exact .natural literal

/--
Characters are read onto a total when they are digits that do not pass the
limit.
-/
theorem readMagnitude_eq_ok_iff
    {limit start number : Nat}
    {beyond : IntegerError}
    {characters : List Char}
    (bounded : start ≤ limit) :
    readMagnitude limit beyond start characters = .ok number ↔
      (∀ character ∈ characters, isDigit character = true) ∧
        Nat.ofDigitChars 10 characters start = number ∧ number ≤ limit := by
  induction characters generalizing start with
  | nil =>
      simp only [readMagnitude, Except.ok.injEq, Nat.ofDigitChars_nil,
        List.not_mem_nil, false_implies, implies_true, true_and]
      exact ⟨fun same => ⟨same, same ▸ bounded⟩, fun read => read.1⟩
  | cons first rest inductionHypothesis =>
      rw [List.forall_mem_cons, Nat.ofDigitChars_cons, readMagnitude]
      by_cases digit : isDigit first = true
      · rw [digitValue?_of_isDigit digit]
        by_cases fits : 10 * start + (first.toNat - '0'.toNat) ≤ limit
        · simp only [if_pos fits, inductionHypothesis fits, digit, true_and]
        · have growth :=
            le_ofDigitChars rest (10 * start + (first.toNat - '0'.toNat))
          simp only [if_neg fits, reduceCtorEq, false_iff, not_and]
          intro _ value
          omega
      · rw [(digitValue?_eq_none_iff first).mpr (by simpa using digit)]
        simp [digit]

theorem readUnsignedDigits_eq_ok_iff
    {limit number : Nat}
    {beyond : IntegerError}
    {characters : List Char} :
    readUnsignedDigits limit beyond characters = .ok number ↔
      DigitsOf characters number ∧ number ≤ limit := by
  cases characters with
  | nil =>
      simp only [readUnsignedDigits, reduceCtorEq, false_iff, not_and]
      exact fun digits => absurd rfl digits.nonempty
  | cons first rest =>
      rw [readUnsignedDigits.eq_2 limit beyond _ (by simp),
        readMagnitude_eq_ok_iff (Nat.zero_le limit)]
      constructor
      · rintro ⟨allDigits, value, bounded⟩
        exact ⟨⟨by simp, allDigits, value⟩, bounded⟩
      · rintro ⟨digits, bounded⟩
        exact ⟨digits.allDigits, digits.value, bounded⟩

/-- The reader of natural numbers accepts the literals up to its limit. -/
theorem readNat_eq_ok_iff
    {limit number : Nat}
    {text : String} :
    readNat limit text = .ok number ↔
      NaturalLiteral text.toList number ∧ number ≤ limit := by
  unfold readNat
  split
  · rename_i empty
    rw [empty]
    simp [not_naturalLiteral_nil]
  · rename_i rest plus
    rw [plus, naturalLiteral_plus_iff, readUnsignedDigits_eq_ok_iff]
  · rename_i characters notEmpty notPlus
    obtain ⟨first, rest, shape⟩ :=
      List.exists_cons_of_ne_nil (l := text.toList) notEmpty
    rw [shape] at notPlus ⊢
    rw [naturalLiteral_iff_of_ne fun plus =>
        notPlus rest (congrArg (· :: rest) plus),
      ← readUnsignedDigits_eq_ok_iff, readUnsignedDigits]
    simp

/-- The integer of 64 bits with a given sign, when the magnitude is in range. -/
theorem map_ofInt_eq_ok_iff
    (sign : Int → Int)
    {magnitude : Except IntegerError Nat}
    {integer : Int64}
    (inRange :
      ∀ number, magnitude = .ok number →
        -(2 : Int) ^ 63 ≤ sign number ∧ sign number < (2 : Int) ^ 63) :
    ((do return ((← magnitude) : Int)).map fun value =>
        Int64.ofInt (sign value)) = .ok integer ↔
      ∃ number, magnitude = .ok number ∧ sign number = integer.toInt := by
  simp only [Outcome.map_eq_ok_iff, Outcome.bind_eq_ok_iff,
    Outcome.pure_eq_ok, Except.ok.injEq]
  constructor
  · rintro ⟨_, ⟨number, read, rfl⟩, rfl⟩
    obtain ⟨lower, upper⟩ := inRange number read
    exact ⟨number, read, (Int64.toInt_ofInt_of_le lower upper).symm⟩
  · rintro ⟨number, read, value⟩
    exact ⟨number, ⟨number, read, rfl⟩,
      by rw [value, Int64.ofInt_toInt]⟩

/-- Digits without a minus sign, read as an integer of 64 bits. -/
theorem map_readUnsignedDigits_eq_ok_iff
    (characters : List Char)
    {integer : Int64} :
    ((do
        return ((← readUnsignedDigits (Nat.pow 2 63 - 1) .tooLarge
          characters) : Int)).map fun value => Int64.ofInt value) =
        .ok integer ↔
      ∃ number, DigitsOf characters number ∧
        (number : Int) = integer.toInt := by
  have largest := integer.toInt_lt
  refine (map_ofInt_eq_ok_iff id ?_).trans ?_
  · intro number read
    have bounded := (readUnsignedDigits_eq_ok_iff.mp read).2
    norm_num at bounded ⊢
    omega
  · refine exists_congr fun number => ?_
    rw [readUnsignedDigits_eq_ok_iff, and_assoc]
    refine and_congr_right fun _ => and_iff_right_of_imp fun value => ?_
    norm_num
    change (number : Int) = _ at value
    omega

/-- Digits after a minus sign, read as an integer of 64 bits. -/
theorem map_neg_readUnsignedDigits_eq_ok_iff
    (characters : List Char)
    {integer : Int64} :
    ((do
        return ((← readUnsignedDigits (Nat.pow 2 63) .tooSmall
          characters) : Int)).map fun value => Int64.ofInt (-value)) =
        .ok integer ↔
      ∃ number, DigitsOf characters number ∧
        -(number : Int) = integer.toInt := by
  have smallest := integer.le_toInt
  refine (map_ofInt_eq_ok_iff Neg.neg ?_).trans ?_
  · intro number read
    have bounded := (readUnsignedDigits_eq_ok_iff.mp read).2
    norm_num at bounded ⊢
    omega
  · refine exists_congr fun number => ?_
    rw [readUnsignedDigits_eq_ok_iff, and_assoc]
    refine and_congr_right fun _ => and_iff_right_of_imp fun value => ?_
    norm_num
    omega

/-- The reader of integers of 64 bits accepts exactly their literals. -/
theorem readInt64_eq_ok_iff {text : String} {integer : Int64} :
    readInt64 text = .ok integer ↔
      IntegerLiteral text.toList integer.toInt := by
  unfold readInt64
  split
  · rename_i empty
    rw [empty, integerLiteral_iff_of_not_minus (by simp)]
    simp [not_naturalLiteral_nil]
  · rename_i rest plus
    rw [plus, integerLiteral_iff_of_not_minus (by simp)]
    simp only [naturalLiteral_plus_iff]
    exact map_readUnsignedDigits_eq_ok_iff rest
  · rename_i rest minus
    rw [minus, integerLiteral_minus_iff]
    exact map_neg_readUnsignedDigits_eq_ok_iff rest
  · rename_i characters notEmpty notPlus notMinus
    obtain ⟨first, rest, shape⟩ :=
      List.exists_cons_of_ne_nil (l := text.toList) notEmpty
    rw [shape] at notPlus notMinus ⊢
    have unsigned : first ≠ '+' :=
      fun plus => notPlus rest (congrArg (· :: rest) plus)
    rw [integerLiteral_iff_of_not_minus notMinus]
    simp only [naturalLiteral_iff_of_ne unsigned]
    exact map_readUnsignedDigits_eq_ok_iff (first :: rest)

theorem digitsOf_digits (number : Nat) : DigitsOf (digits number) number where
  nonempty := digits_ne_nil number
  allDigits := fun _ member => isDigit_of_mem_digits member
  value := Nat.ofDigitChars_ten_toDigits

theorem integerLiteral_signed (integer : Int) :
    IntegerLiteral (signed integer) integer := by
  have literal := digitsOf_digits integer.natAbs
  unfold signed
  split
  · rename_i negative
    have value : -(integer.natAbs : Int) = integer := by
      omega
    rw [← value, Int.natAbs_neg, Int.natAbs_natCast]
    exact .minus literal
  · rename_i natural
    have value : (integer.natAbs : Int) = integer := by
      omega
    exact value ▸ .natural (.unsigned literal)

end LiquidityReturns.Text
