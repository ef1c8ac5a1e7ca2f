import Mathlib
import LiquidityReturns.Proofs.Decimal.Negation

namespace LiquidityReturns

/-!
# Rounding keeps the order

A larger number is not rounded below a smaller one, although the two may be
rounded at different scales.  A number that loses its last digit reaches the
largest coefficient at the finer scale, and the largest coefficient ends in a
digit that rounds up, so the number does not fall below it.  Only the size of
a number can keep it from being rounded: whatever lies between zero and a
number that can be rounded can be rounded as well.
-/

/-- Of two nearest integers the one of the larger number is not smaller. -/
theorem NearestEven.mono
    {quotient larger : ℚ}
    {integer other : ℤ}
    (nearest : NearestEven quotient integer)
    (otherNearest : NearestEven larger other)
    (ordered : quotient ≤ larger) :
    integer ≤ other := by
  by_contra reversed
  have next : (other : ℚ) + 1 ≤ integer := by
    exact_mod_cast not_le.mp reversed
  have above := (abs_le.mp nearest.near).2
  have below := (abs_le.mp otherNearest.near).1
  -- Both are halfway between the two integers, so they are the same number.
  have same : quotient = larger := by
    linarith
  subst same
  exact reversed (nearest.unique otherNearest).le

theorem roundHalfEven_mono : Monotone roundHalfEven :=
  fun quotient larger ordered =>
    (nearestEven_roundHalfEven quotient).mono
      (nearestEven_roundHalfEven larger) ordered

theorem roundHalfEven_nonneg
    {quotient : ℚ}
    (nonneg : 0 ≤ quotient) :
    0 ≤ roundHalfEven quotient := by
  have kept := roundHalfEven_intCast 0
  rw [Int.cast_zero] at kept
  exact kept.ge.trans (roundHalfEven_mono nonneg)

namespace Decimal

section Nonnegative

variable {quotient larger : ℚ} {limit : ℕ} {limit_le : limit ≤ maxScale}

/--
At one scale, a number between zero and one that fits is rounded to no larger a
coefficient.
-/
private theorem exists_coefficient_of_le
    {scale : ℕ}
    {scale_le : scale ≤ maxScale}
    (nonneg : 0 ≤ quotient)
    (ordered : quotient ≤ larger)
    {upper : Decimal}
    (found :
      ofCoefficient? (roundHalfEven (larger * 10 ^ scale)) scale scale_le =
        some upper) :
    ∃ lower,
      ofCoefficient? (roundHalfEven (quotient * 10 ^ scale)) scale
          scale_le =
        some lower ∧
      lower.value ≤ upper.value := by
  have power : (0 : ℚ) < 10 ^ scale := by
    positivity
  have coefficients :
      roundHalfEven (quotient * 10 ^ scale) ≤
        roundHalfEven (larger * 10 ^ scale) :=
    roundHalfEven_mono (mul_le_mul_of_nonneg_right ordered power.le)
  have lower_nonneg :=
    roundHalfEven_nonneg (mul_nonneg nonneg power.le)
  have upper_fits := natAbs_le_of_ofCoefficient? found
  have lower_fits :
      (roundHalfEven (quotient * 10 ^ scale)).natAbs ≤ maxCoefficient := by
    omega
  obtain ⟨lower, lowerFound, lower_eq⟩ :=
    ofCoefficient?_of_le scale_le lower_fits
  refine ⟨lower, lowerFound, ?_⟩
  rw [lower_eq, ofCoefficient?_eq_some found,
    div_le_div_iff_of_pos_right power]
  exact_mod_cast coefficients

/--
A coefficient that gives a number bounds it by the largest coefficient at its
scale.
-/
private theorem value_le_of_ofCoefficient?
    {coefficient : ℤ}
    {scale : ℕ}
    {scale_le : scale ≤ maxScale}
    {number : Decimal}
    (found : ofCoefficient? coefficient scale scale_le = some number) :
    number.value ≤ (maxCoefficient : ℚ) / 10 ^ scale := by
  have fits := natAbs_le_of_ofCoefficient? found
  have bounded : coefficient ≤ maxCoefficient := by
    omega
  rw [ofCoefficient?_eq_some found]
  gcongr
  exact_mod_cast bounded

/-- Without its last digit the largest coefficient is rounded up. -/
private theorem maxCoefficient_le_roundHalfEven
    {tenth : ℚ}
    (reached : (maxCoefficient : ℚ) ≤ tenth * 10) :
    (maxCoefficient : ℚ) ≤ roundHalfEven tenth * 10 := by
  have up :
      (maxCoefficient : ℤ) ≤
        roundHalfEven ((maxCoefficient : ℚ) / 10) * 10 := by
    decide +kernel
  have least :
      roundHalfEven ((maxCoefficient : ℚ) / 10) ≤ roundHalfEven tenth :=
    roundHalfEven_mono ((div_le_iff₀ (by norm_num)).mpr reached)
  have rounded : (maxCoefficient : ℤ) ≤ roundHalfEven tenth * 10 := by
    omega
  exact_mod_cast rounded

/--
A number that reaches the largest coefficient at the next finer scale still
does when rounded.
-/
private theorem reached_of_nearestAt?
    {number : Decimal}
    (found : nearestAt? quotient limit limit_le = some number)
    (nonneg : 0 ≤ quotient)
    (reached : (maxCoefficient : ℚ) ≤ quotient * 10 ^ (limit + 1)) :
    (maxCoefficient : ℚ) / 10 ^ (limit + 1) ≤ number.value := by
  obtain ⟨scale, rounded⟩ := roundedAt_spec found
  have scale_le := rounded.scale_le
  have reachedAt :
      (maxCoefficient : ℚ) ≤ quotient * 10 ^ scale * 10 := by
    rw [mul_assoc, ← pow_succ]
    rcases Nat.lt_or_ge scale limit with coarse | finest
    · have unfit :=
        lt_abs_of_lt_natAbs_roundHalfEven (rounded.finer_refused coarse)
      rw [abs_of_nonneg (by positivity)] at unfit
      exact unfit.le
    · rwa [Nat.le_antisymm scale_le finest]
  calc
    (maxCoefficient : ℚ) / 10 ^ (limit + 1) ≤
        maxCoefficient / 10 ^ (scale + 1) := by
      gcongr
      norm_num
    _ ≤ roundHalfEven (quotient * 10 ^ scale) * 10 / 10 ^ (scale + 1) := by
      gcongr
      exact maxCoefficient_le_roundHalfEven reachedAt
    _ = number.value := by
      rw [rounded.value_eq, pow_succ, mul_div_mul_right _ _ (by norm_num)]

/--
Rounding at most to a given scale, a number between zero and one that can be
rounded can be, and not above it.
-/
private theorem exists_nearestAt?_of_le
    (nonneg : 0 ≤ quotient)
    (ordered : quotient ≤ larger)
    {upper : Decimal}
    (found : nearestAt? larger limit limit_le = some upper) :
    ∃ lower,
      nearestAt? quotient limit limit_le = some lower ∧
        lower.value ≤ upper.value := by
  induction limit with
  | zero =>
      have fitted :
          ofCoefficient? (roundHalfEven (larger * 10 ^ 0)) 0 limit_le =
            some upper := by
        rw [pow_zero, mul_one]
        exact found
      obtain ⟨lower, lowerFitted, lower_le⟩ :=
        exists_coefficient_of_le nonneg ordered fitted
      rw [pow_zero, mul_one] at lowerFitted
      exact ⟨lower, lowerFitted, lower_le⟩
  | succ limit inductionHypothesis =>
      unfold nearestAt? at found ⊢
      split at found
      · rename_i fitted
        cases found
        obtain ⟨lower, lowerFitted, lower_le⟩ :=
          exists_coefficient_of_le nonneg ordered fitted
        rw [lowerFitted]
        exact ⟨lower, rfl, lower_le⟩
      · rename_i refused
        split
        · -- Only the larger number loses its last digit.
          rename_i lower fitted
          have larger_nonneg := nonneg.trans ordered
          have unfit :=
            lt_abs_of_lt_natAbs_roundHalfEven
              (ofCoefficient?_eq_none refused)
          rw [abs_of_nonneg (by positivity)] at unfit
          refine ⟨lower, rfl, ?_⟩
          exact (value_le_of_ofCoefficient? fitted).trans
            (reached_of_nearestAt? found larger_nonneg unfit.le)
        · exact inductionHypothesis found

/--
Whatever lies between zero and a number that can be rounded can be rounded, and
not above it.
-/
theorem exists_nearest?_of_le
    (nonneg : 0 ≤ quotient)
    (ordered : quotient ≤ larger)
    {upper : Decimal}
    (found : nearest? larger = some upper) :
    ∃ lower,
      nearest? quotient = some lower ∧ lower.value ≤ upper.value :=
  exists_nearestAt?_of_le nonneg ordered found

/-- A number that is not negative is not rounded below zero. -/
theorem value_nonneg_of_nearest?
    (nonneg : 0 ≤ quotient)
    {number : Decimal}
    (found : nearest? quotient = some number) :
    0 ≤ number.value := by
  obtain ⟨lower, lowerFound, lower_le⟩ :=
    exists_nearest?_of_le le_rfl nonneg found
  have kept := nearest?_value zero
  rw [value_zero, lowerFound, Option.some.injEq] at kept
  rwa [kept, value_zero] at lower_le

end Nonnegative

/-- Rounding keeps the order of numbers of any sign. -/
theorem nearest?_mono
    {quotient larger : ℚ}
    (ordered : quotient ≤ larger)
    {lower upper : Decimal}
    (lowerFound : nearest? quotient = some lower)
    (upperFound : nearest? larger = some upper) :
    lower.value ≤ upper.value := by
  have negated :
      ∀ {number : ℚ} {rounded : Decimal},
        nearest? number = some rounded →
          nearest? (-number) = some rounded.neg := by
    intro number rounded found
    rw [nearest?_neg, found, Option.map_some]
  rcases le_total 0 quotient with nonneg | nonpos
  · obtain ⟨same, found, same_le⟩ :=
      exists_nearest?_of_le nonneg ordered upperFound
    cases lowerFound.symm.trans found
    exact same_le
  · rcases le_total 0 larger with larger_nonneg | larger_nonpos
    · have lower_nonneg :=
        value_nonneg_of_nearest? (neg_nonneg.mpr nonpos)
          (negated lowerFound)
      have upper_nonneg :=
        value_nonneg_of_nearest? larger_nonneg upperFound
      rw [value_neg] at lower_nonneg
      linarith
    · obtain ⟨same, found, same_le⟩ :=
        exists_nearest?_of_le (neg_nonneg.mpr larger_nonpos)
          (neg_le_neg ordered) (negated lowerFound)
      cases (negated upperFound).symm.trans found
      simpa using same_le

/-- A number is not rounded above a decimal number that it does not exceed. -/
theorem value_le_of_nearest?
    {quotient : ℚ}
    {number bound : Decimal}
    (found : nearest? quotient = some number)
    (bounded : quotient ≤ bound.value) :
    number.value ≤ bound.value :=
  nearest?_mono bounded found (nearest?_value bound)

/-- A number is not rounded below a decimal number that it reaches. -/
theorem le_value_of_nearest?
    {quotient : ℚ}
    {number bound : Decimal}
    (found : nearest? quotient = some number)
    (reached : bound.value ≤ quotient) :
    bound.value ≤ number.value :=
  nearest?_mono reached (nearest?_value bound) found

end Decimal

end LiquidityReturns
