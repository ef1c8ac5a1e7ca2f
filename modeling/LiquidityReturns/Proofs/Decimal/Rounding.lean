import Mathlib
import LiquidityReturns.Proofs.Decimal.Value

namespace LiquidityReturns

/-!
# What one rounding does

`Decimal.rounded_spec` says all that a rounding may do: the result is a
nearest multiple of some power of ten, and a finer power was refused only
because its coefficient did not fit.  Two laws follow from it: a rational
number that a decimal number represents is kept, and any other moves by at
most one part in `10 ^ 28` of its magnitude, or of one half.
-/

/-- The nearest integer is at most one half away. -/
theorem abs_roundHalfEven_sub_le (quotient : ℚ) :
    |(roundHalfEven quotient : ℚ) - quotient| ≤ 1 / 2 := by
  have below := Rat.floor_le quotient
  have above := Rat.lt_floor_add_one quotient
  push_cast at above
  rw [abs_le]
  unfold roundHalfEven
  dsimp only
  split_ifs <;> push_cast <;> constructor <;> linarith

/-- An integer is its own nearest integer. -/
theorem roundHalfEven_intCast (integer : ℤ) :
    roundHalfEven (integer : ℚ) = integer := by
  unfold roundHalfEven
  simp [Rat.floor_intCast]

/-- Rounding to an integer stays within a natural bound. -/
theorem natAbs_roundHalfEven_le
    {quotient : ℚ}
    {bound : ℕ}
    (bounded : |quotient| ≤ bound) :
    (roundHalfEven quotient).natAbs ≤ bound := by
  have near := abs_roundHalfEven_sub_le quotient
  rw [abs_le] at near bounded
  have lower : (-(bound : ℤ) - 1 : ℚ) < roundHalfEven quotient := by
    push_cast
    linarith
  have upper : (roundHalfEven quotient : ℚ) < (bound : ℤ) + 1 := by
    push_cast
    linarith
  have lowerInt : -(bound : ℤ) - 1 < roundHalfEven quotient := by
    exact_mod_cast lower
  have upperInt : roundHalfEven quotient < (bound : ℤ) + 1 := by
    exact_mod_cast upper
  omega

/--
A number whose nearest integer is beyond a natural bound is beyond it as well.
-/
theorem lt_abs_of_lt_natAbs_roundHalfEven
    {quotient : ℚ}
    {bound : ℕ}
    (beyond : bound < (roundHalfEven quotient).natAbs) :
    (bound : ℚ) < |quotient| := by
  by_contra within
  exact absurd (natAbs_roundHalfEven_le (not_lt.mp within))
    (Nat.not_le.mpr beyond)

namespace Decimal

/-- A coefficient that fits denotes a number of its value. -/
theorem ofCoefficient?_of_le
    {coefficient : ℤ}
    {scale : ℕ}
    (scale_le : scale ≤ maxScale)
    (fits : coefficient.natAbs ≤ maxCoefficient) :
    ∃ number,
      ofCoefficient? coefficient scale scale_le = some number ∧
        number.value = (coefficient : ℚ) / 10 ^ scale := by
  refine ⟨reduce coefficient fits scale scale_le, ?_, value_reduce ..⟩
  simp [ofCoefficient?, fits]

/-- A coefficient gives a number only if it fits. -/
theorem ofCoefficient?_eq_some
    {coefficient : ℤ}
    {scale : ℕ}
    {scale_le : scale ≤ maxScale}
    {number : Decimal}
    (found : ofCoefficient? coefficient scale scale_le = some number) :
    number.value = (coefficient : ℚ) / 10 ^ scale := by
  unfold ofCoefficient? at found
  split at found
  · cases found
    exact value_reduce ..
  · contradiction

/-- A coefficient that gives a number fits. -/
theorem natAbs_le_of_ofCoefficient?
    {coefficient : ℤ}
    {scale : ℕ}
    {scale_le : scale ≤ maxScale}
    {number : Decimal}
    (found : ofCoefficient? coefficient scale scale_le = some number) :
    coefficient.natAbs ≤ maxCoefficient := by
  unfold ofCoefficient? at found
  split at found
  · assumption
  · contradiction

/-- A coefficient is refused only if it does not fit. -/
theorem ofCoefficient?_eq_none
    {coefficient : ℤ}
    {scale : ℕ}
    {scale_le : scale ≤ maxScale}
    (refused : ofCoefficient? coefficient scale scale_le = none) :
    maxCoefficient < coefficient.natAbs := by
  unfold ofCoefficient? at refused
  split at refused
  · contradiction
  · omega

/--
A number with `scale` fractional digits that is nearest to a quotient, no finer
one fitting.
-/
structure Rounded
    (limit : ℕ)
    (quotient : ℚ)
    (number : Decimal)
    (scale : ℕ) : Prop where
  scale_le : scale ≤ limit
  value_eq :
    number.value =
      (roundHalfEven (quotient * 10 ^ scale) : ℚ) / 10 ^ scale
  finer_refused :
    scale < limit →
      maxCoefficient < (roundHalfEven (quotient * 10 ^ (scale + 1))).natAbs

/--
Rounding at most to a given scale finds the finest nearest number that fits.
-/
theorem roundedAt_spec
    {quotient : ℚ}
    {limit : ℕ}
    {limit_le : limit ≤ maxScale}
    {number : Decimal}
    (found : nearestAt? quotient limit limit_le = some number) :
    ∃ scale, Rounded limit quotient number scale := by
  induction limit with
  | zero =>
      refine ⟨0, le_rfl, ?_, fun finer => absurd finer (lt_irrefl 0)⟩
      have value := ofCoefficient?_eq_some found
      simpa using value
  | succ limit inductionHypothesis =>
      unfold nearestAt? at found
      split at found
      · rename_i finest shape
        cases found
        exact ⟨limit + 1, le_rfl, ofCoefficient?_eq_some shape,
          fun finer => absurd finer (lt_irrefl _)⟩
      · rename_i refused
        obtain ⟨scale, rounded⟩ := inductionHypothesis found
        refine ⟨scale, rounded.scale_le.trans (Nat.le_succ limit),
          rounded.value_eq, fun _ => ?_⟩
        rcases Nat.lt_or_ge scale limit with finer | reached
        · exact rounded.finer_refused finer
        · have same : scale = limit :=
            Nat.le_antisymm rounded.scale_le reached
          subst same
          exact ofCoefficient?_eq_none refused

/-- What a rounding may do. -/
theorem rounded_spec
    {quotient : ℚ}
    {number : Decimal}
    (found : nearest? quotient = some number) :
    ∃ scale, Rounded maxScale quotient number scale :=
  roundedAt_spec found

/-- Rounding succeeds if the nearest integer fits. -/
theorem exists_nearest?_of_fits
    {quotient : ℚ}
    (fits : (roundHalfEven quotient).natAbs ≤ maxCoefficient) :
    ∃ number, nearest? quotient = some number := by
  suffices reached :
      ∀ limit limit_le,
        ∃ number, nearestAt? quotient limit limit_le = some number from
    reached maxScale le_rfl
  intro limit limit_le
  induction limit with
  | zero =>
      obtain ⟨number, found, _⟩ := ofCoefficient?_of_le limit_le fits
      exact ⟨number, found⟩
  | succ limit inductionHypothesis =>
      unfold nearestAt?
      split
      · rename_i number _
        exact ⟨number, rfl⟩
      · exact inductionHypothesis _

/-- Rounding succeeds below the largest coefficient. -/
theorem exists_nearest?
    {quotient : ℚ}
    (bounded : |quotient| ≤ (maxCoefficient : ℚ)) :
    ∃ number, nearest? quotient = some number :=
  exists_nearest?_of_fits (natAbs_roundHalfEven_le bounded)

/--
A quotient `coefficient / 10 ^ scale` whose coefficient fits is kept, whatever
finer scale is tried first.
-/
private theorem nearestAt?_of_fits
    {quotient : ℚ}
    {coefficient : ℤ}
    {scale limit : ℕ}
    (limit_le : limit ≤ maxScale)
    (scale_le : scale ≤ limit)
    (fits : coefficient.natAbs ≤ maxCoefficient)
    (shape : quotient = (coefficient : ℚ) / 10 ^ scale) :
    ∃ number,
      nearestAt? quotient limit limit_le = some number ∧
        number.value = quotient := by
  -- At every scale from the given one on, the quotient is an exact multiple.
  have exactAt :
      ∀ finer, scale ≤ finer →
        roundHalfEven (quotient * 10 ^ finer) =
          coefficient * 10 ^ (finer - scale) := by
    intro finer within
    have power : (10 : ℚ) ^ scale ≠ 0 := by
      positivity
    have split : (10 : ℚ) ^ finer = 10 ^ scale * 10 ^ (finer - scale) := by
      rw [← pow_add, Nat.add_sub_cancel' within]
    have multiple :
        quotient * 10 ^ finer =
          ((coefficient * 10 ^ (finer - scale) : ℤ) : ℚ) := by
      rw [shape, split]
      push_cast
      field_simp
    rw [multiple, roundHalfEven_intCast]
  have valueAt :
      ∀ finer, scale ≤ finer →
        ((roundHalfEven (quotient * 10 ^ finer) : ℤ) : ℚ) / 10 ^ finer =
          quotient := by
    intro finer within
    have split : (10 : ℚ) ^ finer = 10 ^ scale * 10 ^ (finer - scale) := by
      rw [← pow_add, Nat.add_sub_cancel' within]
    rw [exactAt finer within, shape, split]
    push_cast
    have power : (10 : ℚ) ^ (finer - scale) ≠ 0 := by
      positivity
    rw [mul_div_mul_right _ _ power]
  induction limit with
  | zero =>
      have none_left : scale = 0 := by
        omega
      subst none_left
      have same := exactAt 0 le_rfl
      simp only [pow_zero, mul_one, Nat.sub_self] at same
      rw [← same] at fits
      obtain ⟨number, found, value⟩ := ofCoefficient?_of_le limit_le fits
      refine ⟨number, found, ?_⟩
      simpa [value, same] using shape.symm
  | succ limit inductionHypothesis =>
      unfold nearestAt?
      split
      · rename_i number found
        refine ⟨number, rfl, ?_⟩
        rw [ofCoefficient?_eq_some found]
        exact valueAt (limit + 1) scale_le
      · rename_i refused
        have coarser : scale ≤ limit := by
          by_contra finest
          have same : scale = limit + 1 := by
            omega
          have unfit := ofCoefficient?_eq_none refused
          rw [exactAt (limit + 1) scale_le, same] at unfit
          simp only [Nat.sub_self, pow_zero, mul_one] at unfit
          omega
        exact inductionHypothesis _ coarser

/-- A quotient that a coefficient and a scale represent is kept. -/
theorem nearest?_of_fits
    {quotient : ℚ}
    {coefficient : ℤ}
    {scale : ℕ}
    (scale_le : scale ≤ maxScale)
    (fits : coefficient.natAbs ≤ maxCoefficient)
    (shape : quotient = (coefficient : ℚ) / 10 ^ scale) :
    ∃ number, nearest? quotient = some number ∧ number.value = quotient :=
  nearestAt?_of_fits le_rfl scale_le fits shape

/-- An integer that fits is kept. -/
theorem nearest?_intCast
    {integer : ℤ}
    (fits : integer.natAbs ≤ maxCoefficient) :
    ∃ number,
      nearest? (integer : ℚ) = some number ∧ number.value = integer :=
  nearest?_of_fits (Nat.zero_le _) fits (by rw [pow_zero, div_one])

/-- The value of a number is kept. -/
theorem nearest?_value (number : Decimal) :
    nearest? number.value = some number := by
  obtain ⟨kept, found, value⟩ :=
    nearest?_of_fits number.scale_le number.coefficient_le rfl
  rw [show nearest? number.value = some kept from found,
    value_injective value]

/--
A rounding moves a quotient by at most half a unit of the last digit that is
kept.
-/
theorem Rounded.abs_sub_le
    {limit : ℕ}
    {quotient : ℚ}
    {number : Decimal}
    {scale : ℕ}
    (rounded : Rounded limit quotient number scale) :
    |number.value - quotient| ≤ 1 / 2 / 10 ^ scale := by
  have power : (0 : ℚ) < 10 ^ scale := by
    positivity
  have near := abs_roundHalfEven_sub_le (quotient * 10 ^ scale)
  have distance :
      number.value - quotient =
        ((roundHalfEven (quotient * 10 ^ scale) : ℚ) -
          quotient * 10 ^ scale) / 10 ^ scale := by
    rw [rounded.value_eq]
    field_simp
  rw [distance, abs_div, abs_of_pos power]
  exact div_le_div_of_nonneg_right near power.le

/--
Where digits are dropped, half a unit of the last digit kept is below two
thirds of one part in `10 ^ 28` of the quotient.
-/
theorem Rounded.halfUnit_le_two_thirds
    {quotient : ℚ}
    {number : Decimal}
    {scale : ℕ}
    (rounded : Rounded maxScale quotient number scale)
    (coarse : scale < maxScale) :
    1 / 2 / (10 : ℚ) ^ scale ≤ 2 / 3 * |quotient| / 10 ^ 28 := by
  have power : (0 : ℚ) < 10 ^ scale := by
    positivity
  -- One more digit would not have fitted.
  have large := lt_abs_of_lt_natAbs_roundHalfEven (rounded.finer_refused coarse)
  rw [abs_mul, abs_of_pos (show (0 : ℚ) < 10 ^ (scale + 1) by positivity),
    pow_succ, ← mul_assoc] at large
  rw [div_le_div_iff₀ power (by norm_num)]
  have size : (maxCoefficient : ℚ) = 2 ^ 96 - 1 := by
    norm_num [maxCoefficient]
  rw [size] at large
  linarith

/--
Where digits are dropped, the quotient is large against half a unit of the last
digit kept.
-/
theorem Rounded.halfUnit_le
    {quotient : ℚ}
    {number : Decimal}
    {scale : ℕ}
    (rounded : Rounded maxScale quotient number scale)
    (coarse : scale < maxScale) :
    1 / 2 / (10 : ℚ) ^ scale ≤ |quotient| / 10 ^ 28 := by
  refine (rounded.halfUnit_le_two_thirds coarse).trans ?_
  gcongr
  linarith [abs_nonneg quotient]

/-- A number whose digits up to the last of 28 places fit keeps them all. -/
theorem Rounded.scale_eq_of_fits
    {quotient : ℚ}
    {number : Decimal}
    {scale : ℕ}
    (rounded : Rounded maxScale quotient number scale)
    (fits : |quotient| * 10 ^ maxScale ≤ (maxCoefficient : ℚ)) :
    scale = maxScale := by
  by_contra other
  have coarse : scale < maxScale :=
    lt_of_le_of_ne rounded.scale_le other
  have unfit :=
    lt_abs_of_lt_natAbs_roundHalfEven (rounded.finer_refused coarse)
  have shorter : |quotient * 10 ^ (scale + 1)| ≤ (maxCoefficient : ℚ) :=
    calc
      |quotient * 10 ^ (scale + 1)| = |quotient| * 10 ^ (scale + 1) := by
        have positive : (0 : ℚ) < 10 ^ (scale + 1) := by
          positivity
        rw [abs_mul, abs_of_pos positive]
      _ ≤ |quotient| * 10 ^ maxScale := by
        gcongr
        · norm_num
        · exact coarse
      _ ≤ (maxCoefficient : ℚ) := fits
  exact absurd unfit (not_lt.mpr shorter)

/-- A number of at most one keeps all the digits that a number can have. -/
theorem Rounded.scale_eq_of_le_one
    {quotient : ℚ}
    {number : Decimal}
    {scale : ℕ}
    (rounded : Rounded maxScale quotient number scale)
    (small : |quotient| ≤ 1) :
    scale = maxScale := by
  apply rounded.scale_eq_of_fits
  calc
    |quotient| * 10 ^ maxScale ≤ 1 * 10 ^ maxScale := by
      gcongr
    _ ≤ (maxCoefficient : ℚ) := by
      norm_num [maxScale, maxCoefficient]

/-- A number rounded to the places that a number can have. -/
def toPlaces (quotient : ℚ) : ℚ :=
  (roundHalfEven (quotient * 10 ^ maxScale) : ℚ) / 10 ^ maxScale

/-- A number of at most one is rounded to 28 places. -/
theorem value_eq_toPlaces
    {quotient : ℚ}
    {number : Decimal}
    (found : nearest? quotient = some number)
    (small : |quotient| ≤ 1) :
    number.value = toPlaces quotient := by
  obtain ⟨scale, rounded⟩ := rounded_spec found
  rw [rounded.value_eq, rounded.scale_eq_of_le_one small, toPlaces]

/--
A number of at most one is moved by at most half a unit of the last of 28
places.
-/
theorem abs_value_sub_le_half
    {quotient : ℚ}
    {number : Decimal}
    (found : nearest? quotient = some number)
    (small : |quotient| ≤ 1) :
    |number.value - quotient| ≤ 1 / 2 / 10 ^ 28 := by
  obtain ⟨scale, rounded⟩ := rounded_spec found
  have near := rounded.abs_sub_le
  rwa [rounded.scale_eq_of_le_one small] at near

/--
A rounding moves a quotient by at most two thirds of one part in `10 ^ 28`, or
by half a unit of the last of 28 places.
-/
theorem abs_value_sub_le_two_thirds
    {quotient : ℚ}
    {number : Decimal}
    (found : nearest? quotient = some number) :
    |number.value - quotient| ≤
      max (1 / 2) (2 / 3 * |quotient|) / 10 ^ 28 := by
  obtain ⟨scale, rounded⟩ := rounded_spec found
  rcases Nat.lt_or_ge scale maxScale with coarse | finest
  · calc
      |number.value - quotient| ≤ 1 / 2 / 10 ^ scale := rounded.abs_sub_le
      _ ≤ 2 / 3 * |quotient| / 10 ^ 28 :=
        rounded.halfUnit_le_two_thirds coarse
      _ ≤ max (1 / 2) (2 / 3 * |quotient|) / 10 ^ 28 := by
        gcongr
        exact le_max_right _ _
  · have same : scale = 28 :=
      Nat.le_antisymm rounded.scale_le finest
    subst same
    refine rounded.abs_sub_le.trans ?_
    gcongr
    exact le_max_left _ _

/--
A rounding moves a quotient by at most one part in `10 ^ 28`, or half of that
below one half.
-/
theorem abs_value_sub_le
    {quotient : ℚ}
    {number : Decimal}
    (found : nearest? quotient = some number) :
    |number.value - quotient| ≤ max (1 / 2) |quotient| / 10 ^ 28 := by
  refine (abs_value_sub_le_two_thirds found).trans ?_
  gcongr
  linarith [abs_nonneg quotient]

/-- A rounding moves a quotient by at most the sum of both errors. -/
theorem abs_value_sub_le_add
    {quotient : ℚ}
    {number : Decimal}
    (found : nearest? quotient = some number) :
    |number.value - quotient| ≤ (1 / 2 + 2 / 3 * |quotient|) / 10 ^ 28 := by
  refine (abs_value_sub_le_two_thirds found).trans ?_
  gcongr
  exact max_le_add_of_nonneg (by norm_num) (by positivity)

/--
A quotient within a natural bound rounds to a number within the same bound.
-/
theorem abs_value_le
    {quotient : ℚ}
    {number : Decimal}
    {bound : ℕ}
    (found : nearest? quotient = some number)
    (bounded : |quotient| ≤ bound) :
    |number.value| ≤ bound := by
  obtain ⟨scale, rounded⟩ := rounded_spec found
  have power : (0 : ℚ) < 10 ^ scale := by
    positivity
  have scaled :
      |quotient * 10 ^ scale| ≤ ((bound * 10 ^ scale : ℕ) : ℚ) := by
    rw [abs_mul, abs_of_pos power]
    push_cast
    gcongr
  have coefficient_le := natAbs_roundHalfEven_le scaled
  rw [rounded.value_eq, abs_div, abs_of_pos power, div_le_iff₀ power,
    ← Int.cast_abs, Int.abs_eq_natAbs]
  exact_mod_cast coefficient_le

/--
A quotient within a natural bound that fits a coefficient is rounded within the
same bound.
-/
theorem exists_nearest?_le
    {quotient : ℚ}
    {bound : ℕ}
    (bounded : |quotient| ≤ bound)
    (bound_le : bound ≤ maxCoefficient) :
    ∃ number,
      nearest? quotient = some number ∧ |number.value| ≤ bound := by
  obtain ⟨number, found⟩ :=
    exists_nearest? (bounded.trans (by exact_mod_cast bound_le))
  exact ⟨number, found, abs_value_le found bounded⟩

/--
A quotient within a bound rounds to a number within one part in `10 ^ 28` of
the bound.
-/
theorem exists_nearest?_close
    {quotient bound : ℚ}
    (bounded : |quotient| ≤ bound)
    (half_le : 1 / 2 ≤ bound)
    (bound_le : bound ≤ (maxCoefficient : ℚ)) :
    ∃ number,
      nearest? quotient = some number ∧
        |number.value - quotient| ≤ bound / 10 ^ 28 := by
  obtain ⟨number, found⟩ := exists_nearest? (bounded.trans bound_le)
  refine ⟨number, found, (abs_value_sub_le found).trans ?_⟩
  gcongr
  exact max_le half_le bounded

/--
A quotient within a bound that is near an exact value rounds to a number that
is almost as near.
-/
theorem exists_nearest?_near
    {quotient exact error bound : ℚ}
    (near : |quotient - exact| ≤ error)
    (bounded : |quotient| ≤ bound)
    (half_le : 1 / 2 ≤ bound)
    (bound_le : bound ≤ (maxCoefficient : ℚ)) :
    ∃ number,
      nearest? quotient = some number ∧
        |number.value - exact| ≤ error + bound / 10 ^ 28 := by
  obtain ⟨number, found, close⟩ :=
    exists_nearest?_close bounded half_le bound_le
  refine ⟨number, found, ?_⟩
  calc
    |number.value - exact| ≤
        |number.value - quotient| + |quotient - exact| :=
      abs_sub_le _ _ _
    _ ≤ error + bound / 10 ^ 28 := by
      linarith

end Decimal

end LiquidityReturns
