import Mathlib
import LiquidityReturns.Proofs.Returns.Computability

namespace LiquidityReturns

/-!
# The worth of one coin

A coin of the base asset is divided by the price in that asset, and the rounded
quotient is multiplied by the price in dollars; a coin of the pool's asset is
multiplied by either price.  Each rounding is off by half a unit of the 28th
place or by less than one part in `10 ^ 28`, whichever is larger, so both the
smallest and the largest amounts have a worth near the exact one.
-/

namespace Valuation

variable {amount : Decimal} {price : PriceAt} {worth : Valuation}

/-- A coin of the base asset is valued as such in every pool. -/
theorem ofCoin_rune (amount : Decimal) (pool : Asset) (price : PriceAt) :
    ofCoin ⟨.rune, amount⟩ pool price = ofRune amount price := by
  simp [ofCoin, Asset.isRune_iff]

/--
A coin of the pool's asset is valued as such unless that is the base asset.
-/
theorem ofCoin_asset
    {pool : Asset}
    (other : pool ≠ .rune)
    (amount : Decimal)
    (price : PriceAt) :
    ofCoin ⟨pool, amount⟩ pool price = ofAsset amount price := by
  simp [ofCoin, Asset.isRune_iff, other]

/-- The quotient by a price that is not zero is near the exact one. -/
theorem abs_inAsset_sub_le
    (notZero : price.inRune.value ≠ 0)
    (valued : ofRune amount price = .ok worth) :
    |worth.inAsset.value - amount.value / price.inRune.value| ≤
      (1 / 2 + 2 / 3 * |amount.value / price.inRune.value|) / 10 ^ 28 := by
  obtain ⟨_, divided, _⟩ := ofRune_eq_ok_iff.mp valued
  exact Checked.abs_quotient_sub_le
    (price.inRune.isZero_eq_false_iff.mpr notZero) divided

/-- The quotient times the price is near the amount again. -/
theorem abs_inAsset_mul_sub_le
    (notZero : price.inRune.value ≠ 0)
    (valued : ofRune amount price = .ok worth) :
    |worth.inAsset.value * price.inRune.value - amount.value| ≤
      (|price.inRune.value| + |amount.value|) / 10 ^ 28 := by
  have quotientNear := abs_inAsset_sub_le notZero valued
  have restored :
      amount.value / price.inRune.value * price.inRune.value =
        amount.value :=
    div_mul_cancel₀ _ notZero
  have size :
      |amount.value / price.inRune.value| * |price.inRune.value| =
        |amount.value| := by
    rw [← abs_mul, restored]
  calc
    |worth.inAsset.value * price.inRune.value - amount.value| =
        |worth.inAsset.value - amount.value / price.inRune.value| *
          |price.inRune.value| := by
      rw [← abs_mul, sub_mul, restored]
    _ ≤ (1 / 2 + 2 / 3 * |amount.value / price.inRune.value|) /
          10 ^ 28 * |price.inRune.value| :=
      mul_le_mul_of_nonneg_right quotientNear (abs_nonneg _)
    _ = (1 / 2 * |price.inRune.value| + 2 / 3 * |amount.value|) /
          10 ^ 28 := by
      rw [← size]
      ring
    _ ≤ (|price.inRune.value| + |amount.value|) / 10 ^ 28 := by
      gcongr <;> linarith [abs_nonneg price.inRune.value,
        abs_nonneg amount.value]

/--
The error of the quotient is multiplied by the price in dollars and rounded
once more.
-/
theorem abs_inUsd_sub_le_of_ofRune
    (notZero : price.inRune.value ≠ 0)
    (valued : ofRune amount price = .ok worth) :
    |worth.inUsd.value -
        amount.value / price.inRune.value * price.inUsd.value| ≤
      (1 / 2 + 2 / 3 * |price.inUsd.value| +
          3 / 2 * |amount.value / price.inRune.value * price.inUsd.value|) /
        10 ^ 28 := by
  have quotientNear := abs_inAsset_sub_le notZero valued
  obtain ⟨_, _, multiplied⟩ := ofRune_eq_ok_iff.mp valued
  have productNear := Checked.abs_product_sub_le multiplied
  set quotient := amount.value / price.inRune.value
  set usd := price.inUsd.value
  have amplified :
      |worth.inAsset.value * usd - quotient * usd| ≤
        (1 / 2 * |usd| + 2 / 3 * |quotient * usd|) / 10 ^ 28 := by
    calc
      |worth.inAsset.value * usd - quotient * usd| =
          |worth.inAsset.value - quotient| * |usd| := by
        rw [← sub_mul, abs_mul]
      _ ≤ (1 / 2 + 2 / 3 * |quotient|) / 10 ^ 28 * |usd| :=
        mul_le_mul_of_nonneg_right quotientNear (abs_nonneg usd)
      _ = (1 / 2 * |usd| + 2 / 3 * |quotient * usd|) / 10 ^ 28 := by
        rw [abs_mul]
        ring
  have size :
      |worth.inAsset.value * usd| ≤
        |quotient * usd| + |worth.inAsset.value * usd - quotient * usd| := by
    have triangle :=
      abs_sub_abs_le_abs_sub (worth.inAsset.value * usd) (quotient * usd)
    linarith
  have triangle :=
    abs_sub_le worth.inUsd.value (worth.inAsset.value * usd)
      (quotient * usd)
  linarith [abs_nonneg usd, abs_nonneg (quotient * usd)]

/-- The product with the price in the base asset is near the exact one. -/
theorem abs_inRune_sub_le
    (valued : ofAsset amount price = .ok worth) :
    |worth.inRune.value - amount.value * price.inRune.value| ≤
      (1 / 2 + 2 / 3 * |amount.value * price.inRune.value|) / 10 ^ 28 := by
  obtain ⟨_, multiplied, _⟩ := ofAsset_eq_ok_iff.mp valued
  exact Checked.abs_product_sub_le multiplied

/-- The product with the price in dollars is near the exact one. -/
theorem abs_inUsd_sub_le_of_ofAsset
    (valued : ofAsset amount price = .ok worth) :
    |worth.inUsd.value - amount.value * price.inUsd.value| ≤
      (1 / 2 + 2 / 3 * |amount.value * price.inUsd.value|) / 10 ^ 28 := by
  obtain ⟨_, _, multiplied⟩ := ofAsset_eq_ok_iff.mp valued
  exact Checked.abs_product_sub_le multiplied

end Valuation

/--
A coin of the base asset keeps its amount; its worth in the pool's asset times
the price is the amount again, and its worth in dollars is the exact one, both
up to an error of `10 ^ -28` relative to what is multiplied.  A coin of the
pool's asset keeps its amount, and both its products are as near, where the
pool's asset is not the base asset: a coin of that is valued in the first way
in every pool.
-/
theorem coin_worth_round_trips (pool : Asset) (price : PriceAt) :
    (∀ amount worth,
      price.inRune.value ≠ 0 →
      Valuation.ofCoin ⟨.rune, amount⟩ pool price = .ok worth →
        worth.inRune = amount ∧
        |worth.inAsset.value * price.inRune.value - amount.value| ≤
          (|price.inRune.value| + |amount.value|) / 10 ^ 28 ∧
        |worth.inUsd.value -
            amount.value / price.inRune.value * price.inUsd.value| ≤
          (1 + |price.inUsd.value| +
              2 * |amount.value / price.inRune.value * price.inUsd.value|) /
            10 ^ 28) ∧
    ∀ amount worth,
      pool ≠ .rune →
      Valuation.ofCoin ⟨pool, amount⟩ pool price = .ok worth →
        worth.inAsset = amount ∧
        |worth.inRune.value - amount.value * price.inRune.value| ≤
          (1 + |amount.value * price.inRune.value|) / 10 ^ 28 ∧
        |worth.inUsd.value - amount.value * price.inUsd.value| ≤
          (1 + |amount.value * price.inUsd.value|) / 10 ^ 28 := by
  constructor
  · intro amount worth notZero valued
    rw [Valuation.ofCoin_rune] at valued
    have usdNear := Valuation.abs_inUsd_sub_le_of_ofRune notZero valued
    refine ⟨(Valuation.ofRune_eq_ok_iff.mp valued).1,
      Valuation.abs_inAsset_mul_sub_le notZero valued, ?_⟩
    refine usdNear.trans ?_
    gcongr
    · norm_num
    · linarith [abs_nonneg price.inUsd.value]
    · norm_num
  · intro amount worth other valued
    rw [Valuation.ofCoin_asset other] at valued
    have runeNear := Valuation.abs_inRune_sub_le valued
    have usdNear := Valuation.abs_inUsd_sub_le_of_ofAsset valued
    refine ⟨(Valuation.ofAsset_eq_ok_iff.mp valued).1, ?_, ?_⟩
    · linarith [abs_nonneg (amount.value * price.inRune.value)]
    · linarith [abs_nonneg (amount.value * price.inUsd.value)]

namespace Sample

/-- Prices by which hardly any amount can be divided or multiplied exactly. -/
def unevenPrice : PriceAt where
  inRune := ⟨-3, 4, by decide, by decide, .inr (by decide)⟩
  inUsd := ⟨7000000000000000000000000001, 27, by decide, by decide,
    .inr (by decide)⟩

/-- The smallest number above zero. -/
def smallest : Decimal :=
  ⟨1, Decimal.maxScale, by decide, le_rfl, .inr (by decide)⟩

end Sample

/--
A withdrawn coin at a negative price and a coin of the smallest amount have
such a worth.
-/
theorem coin_worth_round_trips_sample :
    Sample.unevenPrice.inRune.value ≠ 0 ∧
    Sample.pool ≠ .rune ∧
    (∃ worth,
      Valuation.ofCoin ⟨.rune, Sample.integral (-1000000007)⟩ Sample.pool
          Sample.unevenPrice =
        .ok worth ∧
      |worth.inAsset.value * Sample.unevenPrice.inRune.value -
          (Sample.integral (-1000000007)).value| ≤
        (|Sample.unevenPrice.inRune.value| +
            |(Sample.integral (-1000000007)).value|) / 10 ^ 28) ∧
    ∃ worth,
      Valuation.ofCoin ⟨Sample.pool, Sample.smallest⟩ Sample.pool
          Sample.unevenPrice =
        .ok worth ∧
      worth.inAsset = Sample.smallest := by
  have notZero : Sample.unevenPrice.inRune.value ≠ 0 := by
    decide +kernel
  have other : Sample.pool ≠ .rune := by
    decide +kernel
  have near := coin_worth_round_trips Sample.pool Sample.unevenPrice
  obtain ⟨runeWorth, runeValued⟩ :=
    Outcome.exists_of_toOption_isSome
      (show (Valuation.ofCoin ⟨.rune, Sample.integral (-1000000007)⟩
          Sample.pool Sample.unevenPrice).toOption.isSome = true by
        decide +kernel)
  obtain ⟨assetWorth, assetValued⟩ :=
    Outcome.exists_of_toOption_isSome
      (show (Valuation.ofCoin ⟨Sample.pool, Sample.smallest⟩
          Sample.pool Sample.unevenPrice).toOption.isSome = true by
        decide +kernel)
  exact ⟨notZero, other,
    ⟨runeWorth, runeValued, (near.1 _ _ notZero runeValued).2.1⟩,
    assetWorth, assetValued, (near.2 _ _ other assetValued).1⟩

end LiquidityReturns
