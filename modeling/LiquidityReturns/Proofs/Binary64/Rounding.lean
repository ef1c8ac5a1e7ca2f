import Mathlib
import LiquidityReturns.Binary64.Shortest
import LiquidityReturns.Proofs.Decimal.Monotone

namespace LiquidityReturns.Binary64

/-!
# What rounding to binary64 does

A number with a significand of 53 bits is kept.  Any other number of normal
size lies in the interval of numbers that round back to its magnitude, which
is at most half a unit of the last place away.
-/

/-- The number of digits of a positive number is one above its logarithm. -/
theorem digitCount_eq_log
    {base number : ℕ}
    (large : 1 < base)
    (positive : 0 < number) :
    digitCount base number = Nat.log base number + 1 := by
  have atMost (length : ℕ) (lengthPositive : 0 < length) :
      digitCount base number ≤ length ↔ Nat.log base number < length := by
    rw [digitCount, Nat.length_toDigits_le_iff large lengthPositive,
      Nat.log_lt_iff_lt_pow large positive.ne']
  have upper := (atMost (Nat.log base number + 1) (by omega)).mpr (by omega)
  by_contra different
  have lower : digitCount base number ≤ Nat.log base number := by
    omega
  have nonzero : 0 < digitCount base number :=
    List.length_pos_iff.mpr Nat.toDigits_ne_nil
  have short := (atMost _ nonzero).mp le_rfl
  omega

theorem log_eq_iff
    {base : ℕ}
    {quotient : ℚ}
    {exponent : ℤ}
    (large : 1 < base)
    (positive : 0 < quotient) :
    Int.log base quotient = exponent ↔
      (base : ℚ) ^ exponent ≤ quotient ∧
        quotient < (base : ℚ) ^ (exponent + 1) := by
  rw [Int.zpow_le_iff_le_log large positive,
    Int.lt_zpow_iff_log_lt large positive]
  omega

/--
A quotient is estimated by the logarithms of its numerator and denominator.
-/
theorem zpow_le_and_lt_zpow_of_logs
    {base : ℕ}
    {quotient : ℚ}
    (large : 1 < base)
    (positive : 0 < quotient)
    {estimate : ℤ}
    (isEstimate :
      (Nat.log base quotient.num.natAbs : ℤ) - Nat.log base quotient.den =
        estimate) :
    (base : ℚ) ^ (estimate - 1) ≤ quotient ∧
      quotient < (base : ℚ) ^ (estimate + 1) := by
  have basePositive : (0 : ℚ) < base := by
    exact_mod_cast (by omega : 0 < base)
  have numNonzero : quotient.num.natAbs ≠ 0 :=
    Int.natAbs_ne_zero.mpr (Rat.num_pos.mpr positive).ne'
  have denPositive : (0 : ℚ) < quotient.den := by
    exact_mod_cast quotient.den_pos
  have shape : (quotient.num.natAbs : ℚ) = quotient * quotient.den := by
    rw [Rat.mul_den_eq_num, Nat.cast_natAbs,
      abs_of_pos (Rat.num_pos.mpr positive)]
  obtain ⟨numLog, numShape⟩ :
      ∃ log, Nat.log base quotient.num.natAbs = log := ⟨_, rfl⟩
  obtain ⟨denLog, denShape⟩ :
      ∃ log, Nat.log base quotient.den = log := ⟨_, rfl⟩
  have numBelow : (base : ℚ) ^ numLog ≤ quotient * quotient.den := by
    rw [← shape, ← numShape]
    exact_mod_cast Nat.pow_log_le_self base numNonzero
  have numAbove : quotient * quotient.den < (base : ℚ) ^ (numLog + 1) := by
    rw [← shape, ← numShape]
    exact_mod_cast Nat.lt_pow_succ_log_self large _
  have denBelow : (base : ℚ) ^ denLog ≤ quotient.den := by
    rw [← denShape]
    exact_mod_cast Nat.pow_log_le_self base quotient.den_pos.ne'
  have denAbove : (quotient.den : ℚ) < (base : ℚ) ^ (denLog + 1) := by
    rw [← denShape]
    exact_mod_cast Nat.lt_pow_succ_log_self large _
  rw [numShape, denShape] at isEstimate
  constructor
  · refine le_of_mul_le_mul_right ?_ denPositive
    calc
      (base : ℚ) ^ (estimate - 1) * quotient.den ≤
          (base : ℚ) ^ (estimate - 1) * (base : ℚ) ^ (denLog + 1) := by
        gcongr
      _ = (base : ℚ) ^ numLog := by
        rw [← zpow_natCast, ← zpow_natCast,
          ← zpow_add₀ basePositive.ne']
        congr 1
        push_cast
        omega
      _ ≤ quotient * quotient.den := numBelow
  · refine lt_of_mul_lt_mul_right ?_ denPositive.le
    calc
      quotient * quotient.den < (base : ℚ) ^ (numLog + 1) := numAbove
      _ = (base : ℚ) ^ (estimate + 1) * (base : ℚ) ^ denLog := by
        rw [← zpow_natCast, ← zpow_natCast,
          ← zpow_add₀ basePositive.ne']
        congr 1
        push_cast
        omega
      _ ≤ (base : ℚ) ^ (estimate + 1) * quotient.den := by
        gcongr

/-- The estimate from the numbers of digits is the logarithm or one above it. -/
theorem floorLog_eq_log
    {base : ℕ}
    {quotient : ℚ}
    (large : 1 < base)
    (positive : 0 < quotient) :
    floorLog base quotient = Int.log base quotient := by
  have numPositive : 0 < quotient.num.natAbs :=
    Int.natAbs_pos.mpr (Rat.num_pos.mpr positive).ne'
  obtain ⟨estimate, isEstimate⟩ :
      ∃ estimate,
        (Nat.log base quotient.num.natAbs : ℤ) -
            Nat.log base quotient.den =
          estimate :=
    ⟨_, rfl⟩
  have counted :
      (digitCount base quotient.num.natAbs : ℤ) -
          digitCount base quotient.den =
        estimate := by
    rw [digitCount_eq_log large numPositive,
      digitCount_eq_log large quotient.den_pos]
    push_cast
    omega
  obtain ⟨lower, upper⟩ :=
    zpow_le_and_lt_zpow_of_logs large positive isEstimate
  unfold floorLog
  simp only [counted]
  split
  · rename_i reached
    exact ((log_eq_iff large positive).mpr ⟨reached, upper⟩).symm
  · rename_i missed
    refine ((log_eq_iff large positive).mpr ⟨lower, ?_⟩).symm
    rw [sub_add_cancel]
    exact not_le.mp missed

theorem significand_eq_zero_iff {magnitude : Binary64} :
    magnitude.significand = 0 ↔ magnitude.value = 0 := by
  have power : (2 : ℚ) ^ magnitude.exponent ≠ 0 := by
    positivity
  rw [value, mul_eq_zero, or_iff_left power, Nat.cast_eq_zero]

theorem value_carry (significand : ℕ) (exponent : ℤ) :
    (carry significand exponent).value =
      (significand : ℚ) * (2 : ℚ) ^ exponent := by
  unfold carry
  split
  · rename_i carried
    rw [carried, value, zpow_add₀ (by norm_num)]
    norm_num
    ring
  · rfl

/-- A number has fewer than `2 ^ 53` units of its last place. -/
theorem div_unit_lt
    {quotient : ℚ}
    {unit : ℤ}
    (positive : 0 < quotient)
    (isUnit : max (Int.log 2 quotient - 52) leastExponent = unit) :
    quotient / 2 ^ unit < 2 ^ 53 := by
  have power : (0 : ℚ) < 2 ^ unit := by
    positivity
  rw [div_lt_iff₀ power, ← zpow_natCast, ← zpow_add₀ (by norm_num)]
  refine (Int.lt_zpow_iff_log_lt (b := 2) (by norm_num) positive).mpr ?_
  push_cast
  omega

/-- A number is rounded in units of its last place. -/
theorem round?_of_unit
    {quotient : ℚ}
    {unit : ℤ}
    (positive : 0 < quotient)
    (isUnit : max (Int.log 2 quotient - 52) leastExponent = unit)
    (bounded : unit < greatestExponent) :
    round? quotient =
      some (carry (roundHalfEven (quotient / 2 ^ unit)).natAbs unit) := by
  unfold round?
  rw [if_neg positive.ne', floorLog_eq_log (by norm_num) positive]
  simp only [isUnit]
  refine if_pos ?_
  unfold carry
  split <;> simp only <;> omega

/-- Every significand has at most 53 bits. -/
theorem significand_lt_of_round?
    {quotient : ℚ}
    {magnitude : Binary64}
    (nonneg : 0 ≤ quotient)
    (found : round? quotient = some magnitude) :
    magnitude.significand < 2 ^ 53 := by
  unfold round? at found
  split at found
  · cases found
    decide
  · rename_i nonzero
    have positive : 0 < quotient := lt_of_le_of_ne nonneg (Ne.symm nonzero)
    rw [floorLog_eq_log (by norm_num) positive] at found
    dsimp only at found
    split at found
    · cases found
      have bounded := div_unit_lt positive rfl
      have rounded :
          (roundHalfEven (quotient /
            2 ^ max (Int.log 2 quotient - 52) leastExponent)).natAbs ≤
              2 ^ 53 := by
        refine natAbs_roundHalfEven_le ?_
        rw [abs_of_nonneg (by positivity)]
        exact_mod_cast bounded.le
      unfold carry
      split
      · exact Nat.pow_lt_pow_right (by decide) (by decide)
      · rename_i notCarried
        exact lt_of_le_of_ne rounded notCarried
    · contradiction

/-- A product of a significand of 53 bits and a power of two is kept. -/
theorem exists_round?_of_representable
    {significand : ℕ}
    {exponent : ℤ}
    (fits : significand < 2 ^ 53)
    (least : leastExponent ≤ exponent)
    (greatest : exponent < greatestExponent) :
    ∃ magnitude,
      round? ((significand : ℚ) * (2 : ℚ) ^ exponent) = some magnitude ∧
        magnitude.value = (significand : ℚ) * (2 : ℚ) ^ exponent := by
  obtain ⟨quotient, shape⟩ :
      ∃ quotient, (significand : ℚ) * (2 : ℚ) ^ exponent = quotient :=
    ⟨_, rfl⟩
  rw [shape]
  by_cases isZero : quotient = 0
  · exact ⟨.zero, by rw [round?, if_pos isZero],
      by simp [isZero, value, zero]⟩
  have positive : 0 < quotient := by
    refine lt_of_le_of_ne ?_ (Ne.symm isZero)
    rw [← shape]
    positivity
  obtain ⟨unit, isUnit⟩ :
      ∃ unit, max (Int.log 2 quotient - 52) leastExponent = unit :=
    ⟨_, rfl⟩
  have power : (0 : ℚ) < 2 ^ unit := by
    positivity
  have below : quotient < ((2 : ℕ) : ℚ) ^ (exponent + 53) := by
    rw [← shape, zpow_add₀ (by norm_num), mul_comm]
    push_cast
    gcongr
    exact_mod_cast fits
  have finer : unit ≤ exponent := by
    have bound :=
      (Int.lt_zpow_iff_log_lt (by norm_num) positive).mp below
    omega
  have rounded := round?_of_unit positive isUnit (by omega)
  obtain ⟨shift, split⟩ := Int.eq_ofNat_of_zero_le (sub_nonneg.mpr finer)
  have scaled :
      quotient / 2 ^ unit = ((significand * 2 ^ shift : ℕ) : ℤ) := by
    rw [div_eq_iff power.ne', ← shape, sub_eq_iff_eq_add.mp split,
      zpow_add₀ (by norm_num)]
    push_cast
    rw [zpow_natCast]
    ring
  refine ⟨_, rounded, ?_⟩
  rw [value_carry, scaled, roundHalfEven_intCast, Int.natAbs_natCast, ← shape,
    sub_eq_iff_eq_add.mp split, zpow_add₀ (by norm_num)]
  push_cast
  rw [zpow_natCast]
  ring

/--
A magnitude with a significand of exactly 53 bits, above the least exponent.
-/
structure Normal (magnitude : Binary64) : Prop where
  le_significand : 2 ^ 52 ≤ magnitude.significand
  significand_lt : magnitude.significand < 2 ^ 53
  exponent_gt : leastExponent < magnitude.exponent

/--
The interval of what rounds to a magnitude includes its ends when the
significand is even.
-/
theorem roundsBack_iff {magnitude : Binary64} {candidate : ℚ} :
    magnitude.roundsBack candidate = true ↔
      (magnitude.value - magnitude.halfGapBelow ≤ candidate ∧
          candidate ≤ magnitude.value + magnitude.halfGapAbove) ∧
        (magnitude.significand % 2 = 0 ∨
          magnitude.value - magnitude.halfGapBelow < candidate ∧
            candidate < magnitude.value + magnitude.halfGapAbove) := by
  unfold roundsBack
  dsimp only
  split
  · rename_i even
    simp [even]
  · rename_i odd
    simp only [Nat.mod_two_ne_zero] at odd
    simp only [odd, decide_eq_true_eq, one_ne_zero, false_or]
    exact ⟨fun inside => ⟨⟨inside.1.le, inside.2.le⟩, inside⟩,
      fun inside => inside.2⟩

theorem two_zpow_sub_one (exponent : ℤ) :
    (2 : ℚ) ^ (exponent - 1) = 2 ^ exponent / 2 := by
  rw [zpow_sub_one₀ (by norm_num), div_eq_mul_inv]

theorem two_zpow_sub_two (exponent : ℤ) :
    (2 : ℚ) ^ (exponent - 2) = 2 ^ exponent / 4 := by
  rw [zpow_sub₀ (by norm_num)]
  norm_num

section Nearest

variable {scaled : ℚ} {significand : ℕ} {unit : ℤ}

/--
A number that is rounded up to the next power of two rounds back to that power.
-/
theorem powerOfTwo_roundsBack
    (near : (2 : ℚ) ^ 53 ≤ scaled + 1 / 2)
    (upper : scaled < 2 ^ 53)
    (normal : leastExponent < unit + 1) :
    roundsBack ⟨2 ^ 52, unit + 1⟩ (scaled * 2 ^ unit) = true := by
  have power : (0 : ℚ) < 2 ^ unit := by
    positivity
  have next : (2 : ℚ) ^ (unit + 1) = 2 ^ unit * 2 :=
    zpow_add_one₀ (by norm_num) unit
  have gapBelow : halfGapBelow ⟨2 ^ 52, unit + 1⟩ = 2 ^ unit / 2 := by
    rw [halfGapBelow, if_pos ⟨rfl, normal⟩, two_zpow_sub_two, next]
    ring
  have gapAbove : halfGapAbove ⟨2 ^ 52, unit + 1⟩ = 2 ^ unit := by
    rw [halfGapAbove, two_zpow_sub_one, next]
    ring
  have reached := mul_le_mul_of_nonneg_right near power.le
  have within := mul_lt_mul_of_pos_right upper power
  rw [roundsBack_iff, gapBelow, gapAbove]
  simp only [value, next]
  norm_num at reached within ⊢
  constructor <;> linarith

/--
A number rounds back to the magnitude of its nearest significand where that has
53 bits.
-/
theorem nearest_roundsBack
    (nearest : NearestEven scaled significand)
    (lower : 2 ^ 52 ≤ scaled)
    (normal : leastExponent < unit) :
    roundsBack ⟨significand, unit⟩ (scaled * 2 ^ unit) = true := by
  have power : (0 : ℚ) < 2 ^ unit := by
    positivity
  obtain ⟨above, below⟩ := abs_le.mp nearest.near
  simp only [Int.cast_natCast, tsub_le_iff_right, neg_le_sub_iff_le_add]
    at above below
  -- Everything is compared in units of the last place.
  have within := mul_le_mul_of_nonneg_right above power.le
  have gapAbove : halfGapAbove ⟨significand, unit⟩ = 2 ^ unit / 2 :=
    two_zpow_sub_one unit
  rw [roundsBack_iff, gapAbove]
  simp only [value]
  by_cases atPower : significand = 2 ^ 52
  · -- The gap below a power of two is narrower, but nothing was rounded up.
    have gapBelow : halfGapBelow ⟨significand, unit⟩ = 2 ^ unit / 4 := by
      rw [halfGapBelow, if_pos ⟨atPower, normal⟩, two_zpow_sub_two]
    have reached := mul_le_mul_of_nonneg_right lower power.le
    rw [gapBelow, atPower]
    rw [atPower] at within
    norm_num at reached within ⊢
    constructor <;> linarith
  · have gapBelow : halfGapBelow ⟨significand, unit⟩ = 2 ^ unit / 2 := by
      rw [halfGapBelow, if_neg fun both => atPower both.1, two_zpow_sub_one]
    have reached := mul_le_mul_of_nonneg_right below power.le
    rw [gapBelow]
    refine ⟨⟨by linarith, by linarith⟩, ?_⟩
    by_cases even : significand % 2 = 0
    · exact .inl even
    · have notTie : |((significand : ℤ) : ℚ) - scaled| < 1 / 2 := by
        refine lt_of_le_of_ne nearest.near fun tie => ?_
        have isEven := nearest.even_of_tie tie
        omega
      obtain ⟨above, below⟩ := abs_lt.mp notTie
      simp only [Int.cast_natCast] at above below
      have reached :=
        mul_lt_mul_of_pos_right (sub_lt_iff_lt_add.mp below) power
      have within :=
        mul_lt_mul_of_pos_right (neg_lt_sub_iff_lt_add.mp above) power
      exact .inr ⟨by linarith, by linarith⟩

/--
A number of 53 bits before the point rounds back to its magnitude, carried or
not.
-/
theorem carry_roundsBack
    (nearest : NearestEven scaled significand)
    (lower : 2 ^ 52 ≤ scaled)
    (upper : scaled < 2 ^ 53)
    (least : 2 ^ 52 ≤ significand)
    (greatest : significand ≤ 2 ^ 53)
    (normal : leastExponent < unit) :
    (carry significand unit).Normal ∧
      (carry significand unit).roundsBack (scaled * 2 ^ unit) = true := by
  unfold carry
  split
  · rename_i carried
    have near := sub_le_iff_le_add'.mp (le_of_abs_le nearest.near)
    rw [carried] at near
    push_cast at near
    exact ⟨⟨le_rfl, by norm_num, by simp only; omega⟩,
      powerOfTwo_roundsBack (by norm_num at near ⊢; linarith) upper
        (by omega)⟩
  · rename_i notCarried
    exact ⟨⟨least, lt_of_le_of_ne greatest notCarried, normal⟩,
      nearest_roundsBack nearest lower normal⟩

end Nearest

/-- A number of normal size has a magnitude, to which it rounds back. -/
theorem exists_round?_of_normal
    {quotient : ℚ}
    (positive : 0 < quotient)
    (normal : leastExponent < Int.log 2 quotient - 52)
    (bounded : Int.log 2 quotient - 52 < greatestExponent) :
    ∃ magnitude,
      round? quotient = some magnitude ∧ magnitude.Normal ∧
        magnitude.roundsBack quotient = true := by
  obtain ⟨unit, isUnit⟩ : ∃ unit, Int.log 2 quotient - 52 = unit :=
    ⟨_, rfl⟩
  rw [isUnit] at normal bounded
  have power : (0 : ℚ) < 2 ^ unit := by
    positivity
  have units : max (Int.log 2 quotient - 52) leastExponent = unit := by
    omega
  have rounded := round?_of_unit positive units bounded
  have upper := div_unit_lt positive units
  have lower : (2 : ℚ) ^ 52 ≤ quotient / 2 ^ unit := by
    rw [le_div_iff₀ power, ← zpow_natCast, ← zpow_add₀ (by norm_num)]
    refine (Int.zpow_le_iff_le_log (b := 2) (by norm_num) positive).mpr ?_
    push_cast
    omega
  obtain ⟨scaled, shape⟩ : ∃ scaled, quotient / 2 ^ unit = scaled :=
    ⟨_, rfl⟩
  rw [shape] at rounded upper lower
  rw [div_eq_iff power.ne'] at shape
  obtain ⟨integer, isNearest⟩ :
      ∃ integer, roundHalfEven scaled = integer :=
    ⟨_, rfl⟩
  have nearest := nearestEven_roundHalfEven scaled
  have atLeast : roundHalfEven ((2 ^ 52 : ℤ) : ℚ) ≤ integer := by
    rw [← isNearest]
    exact roundHalfEven_mono (by exact_mod_cast lower)
  have atMost : integer ≤ roundHalfEven ((2 ^ 53 : ℤ) : ℚ) := by
    rw [← isNearest]
    exact roundHalfEven_mono (by exact_mod_cast upper.le)
  rw [roundHalfEven_intCast] at atLeast atMost
  rw [isNearest] at rounded nearest
  obtain ⟨significand, rfl⟩ :=
    Int.eq_ofNat_of_zero_le (a := integer) (by omega)
  rw [Int.natAbs_natCast] at rounded
  have inside :=
    carry_roundsBack nearest lower upper (by omega) (by omega) normal
  rw [← shape] at inside
  exact ⟨_, rounded, inside⟩

end LiquidityReturns.Binary64
