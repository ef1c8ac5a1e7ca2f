import Mathlib
import LiquidityReturns.Proofs.Decimal.Rounding

namespace LiquidityReturns

/-!
# Rounding and the sign

`NearestEven` says which integer half-even rounding chooses, and there is only
one such integer.  Negation keeps the condition, so the roundings of a number
and of its negation are negations of each other, overflow included.
-/

/--
An integer at most one half away from a number, and even if it is exactly one
half away.
-/
structure NearestEven (quotient : ℚ) (integer : ℤ) : Prop where
  near : |(integer : ℚ) - quotient| ≤ 1 / 2
  even_of_tie : |(integer : ℚ) - quotient| = 1 / 2 → integer % 2 = 0

namespace NearestEven

/-- Of two such integers none is smaller. -/
private theorem not_less
    {quotient : ℚ}
    {left right : ℤ}
    (leftNearest : NearestEven quotient left)
    (rightNearest : NearestEven quotient right) :
    ¬ left < right := by
  intro less
  have next : (left : ℚ) + 1 ≤ right := by
    exact_mod_cast less
  have leftNear := abs_le.mp leftNearest.near
  have rightNear := abs_le.mp rightNearest.near
  -- Both are exactly one half away, so both would be even.
  have leftDistance : (left : ℚ) - quotient = -(1 / 2) := by
    linarith
  have rightDistance : (right : ℚ) - quotient = 1 / 2 := by
    linarith
  have leftEven : left % 2 = 0 := by
    apply leftNearest.even_of_tie
    rw [leftDistance, abs_neg, abs_of_pos (by norm_num)]
  have rightEven : right % 2 = 0 := by
    apply rightNearest.even_of_tie
    rw [rightDistance, abs_of_pos (by norm_num)]
  have neighbours : right = left + 1 := by
    have distance : (right : ℚ) = left + 1 := by
      linarith
    exact_mod_cast distance
  omega

theorem unique
    {quotient : ℚ}
    {left right : ℤ}
    (leftNearest : NearestEven quotient left)
    (rightNearest : NearestEven quotient right) :
    left = right :=
  le_antisymm (Int.not_lt.mp (not_less rightNearest leftNearest))
    (Int.not_lt.mp (not_less leftNearest rightNearest))

theorem neg
    {quotient : ℚ}
    {integer : ℤ}
    (nearest : NearestEven quotient integer) :
    NearestEven (-quotient) (-integer) := by
  have distance :
      |((-integer : ℤ) : ℚ) - -quotient| =
        |(integer : ℚ) - quotient| := by
    rw [Int.cast_neg, neg_sub_neg, abs_sub_comm]
  refine ⟨distance ▸ nearest.near, ?_⟩
  intro tie
  have even := nearest.even_of_tie (distance ▸ tie)
  omega

end NearestEven

/--
Half-even rounding chooses the nearest integer, and the even one at a tie.
-/
theorem nearestEven_roundHalfEven (quotient : ℚ) :
    NearestEven quotient (roundHalfEven quotient) := by
  refine ⟨abs_roundHalfEven_sub_le quotient, ?_⟩
  have below := Rat.floor_le quotient
  have above := Rat.lt_floor_add_one quotient
  push_cast at above
  unfold roundHalfEven
  dsimp only
  split_ifs with lower upper even
  · intro tie
    rw [abs_of_nonpos (by linarith)] at tie
    linarith
  · intro tie
    push_cast at tie
    rw [abs_of_nonneg (by linarith)] at tie
    linarith
  · exact fun _ => even
  · intro _
    omega

theorem roundHalfEven_neg (quotient : ℚ) :
    roundHalfEven (-quotient) = -roundHalfEven quotient :=
  (nearestEven_roundHalfEven (-quotient)).unique
    (nearestEven_roundHalfEven quotient).neg

namespace Decimal

@[simp] theorem value_neg (number : Decimal) :
    number.neg.value = -number.value := by
  simp [value, neg, neg_div]

/-- A negated coefficient denotes the negated number, if it fits. -/
theorem ofCoefficient?_neg
    (coefficient : ℤ)
    (scale : ℕ)
    (scale_le : scale ≤ maxScale) :
    ofCoefficient? (-coefficient) scale scale_le =
      (ofCoefficient? coefficient scale scale_le).map neg := by
  unfold ofCoefficient?
  simp only [Int.natAbs_neg]
  by_cases fits : coefficient.natAbs ≤ maxCoefficient
  · rw [dif_pos fits, dif_pos fits, Option.map_some]
    congr 1
    apply value_injective
    rw [value_neg, value_reduce, value_reduce, Int.cast_neg, neg_div]
  · rw [dif_neg fits, dif_neg fits, Option.map_none]

private theorem nearestAt?_neg
    (quotient : ℚ)
    (limit : ℕ)
    (limit_le : limit ≤ maxScale) :
    nearestAt? (-quotient) limit limit_le =
      (nearestAt? quotient limit limit_le).map neg := by
  induction limit with
  | zero =>
      unfold nearestAt?
      rw [roundHalfEven_neg, ofCoefficient?_neg]
  | succ limit inductionHypothesis =>
      unfold nearestAt?
      rw [neg_mul, roundHalfEven_neg, ofCoefficient?_neg,
        inductionHypothesis]
      cases ofCoefficient?
          (roundHalfEven (quotient * (10 : ℚ) ^ (limit + 1)))
          (limit + 1) limit_le with
      | none =>
          rfl
      | some number =>
          rfl

/-- The number nearest to a negation is the negated number. -/
theorem nearest?_neg (quotient : ℚ) :
    nearest? (-quotient) = (nearest? quotient).map neg :=
  nearestAt?_neg quotient maxScale le_rfl

/-- A difference taken the other way round is the negated difference. -/
theorem sub?_swap (left right : Decimal) :
    right.sub? left = (left.sub? right).map neg := by
  unfold sub?
  rw [← neg_sub, nearest?_neg]

end Decimal

end LiquidityReturns
