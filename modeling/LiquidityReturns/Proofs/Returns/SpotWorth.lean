import Mathlib
import LiquidityReturns.Proofs.Returns.CoinWorth
import LiquidityReturns.Proofs.Returns.LargerStakes

namespace LiquidityReturns

/-!
# One wealth in three units

What can be redeemed is valued by a chain of its own in each unit of account.
The chains round in different places, but each stays near the exact wealth of
the two amounts in its unit, so the three values tell one wealth.  The value of
a position is the sum of the worth of both amounts, and the errors of these two
are those of one coin each.
-/

namespace PoolState

variable {state : PoolState} {rune asset : Decimal} {value : Valuation}

/-- The wealth of two amounts at the spot price, in the base asset. -/
def exactWealth (state : PoolState) (rune asset : Decimal) : ℚ :=
  rune.value + asset.value * state.assetPrice.value

/-- The wealth of two amounts at the spot price, in the pool's asset. -/
def exactWealthInAsset (state : PoolState) (rune asset : Decimal) : ℚ :=
  state.exactWealth rune asset / state.assetPrice.value

/-- The wealth of two amounts at the spot price, in dollars. -/
def exactWealthInUsd (state : PoolState) (rune asset : Decimal) : ℚ :=
  state.exactWealthInAsset rune asset * state.assetPriceUsd.value

/--
The wealth in the pool's asset is the sum of what both amounts are worth in it.
-/
theorem exactWealthInAsset_eq
    (price_pos : 0 < state.assetPrice.value)
    (rune asset : Decimal) :
    state.exactWealthInAsset rune asset =
      rune.value / state.assetPrice.value + asset.value := by
  unfold exactWealthInAsset exactWealth
  field_simp

/--
The wealth in dollars is the sum of what both amounts are worth in dollars.
-/
theorem exactWealthInUsd_eq
    (price_pos : 0 < state.assetPrice.value)
    (rune asset : Decimal) :
    state.exactWealthInUsd rune asset =
      rune.value / state.assetPrice.value * state.assetPriceUsd.value +
        asset.value * state.assetPriceUsd.value := by
  unfold exactWealthInUsd
  rw [exactWealthInAsset_eq price_pos, add_mul]

/-- The value in the base asset is near the exact wealth. -/
theorem abs_inRune_sub_le
    (price_pos : 0 < state.assetPrice.value)
    (rune_nonneg : 0 ≤ rune.value)
    (asset_nonneg : 0 ≤ asset.value)
    (valued : state.spotValue rune asset = .ok value) :
    |value.inRune.value - state.exactWealth rune asset| ≤
      (1 + 2 * state.exactWealth rune asset) / 10 ^ 28 := by
  obtain ⟨runeWorth, assetWorth, runeValued, assetValued, added⟩ :=
    spotValue_eq_ok_iff.mp valued
  have kept : runeWorth.inRune = rune :=
    (Valuation.ofRune_eq_ok_iff.mp runeValued).1
  have worth_nonneg : 0 ≤ asset.value * state.assetPrice.value := by
    positivity
  have assetNear := Valuation.abs_inRune_sub_le assetValued
  simp only [spotPrice, abs_of_nonneg worth_nonneg] at assetNear
  have near :=
    Checked.abs_sum_sub_le_of_near (Valuation.add_eq_ok_iff.mp added .rune)
      (show |runeWorth.inRune.value - rune.value| ≤ 0 by simp [kept])
      assetNear
  rw [abs_of_nonneg (add_nonneg rune_nonneg worth_nonneg)] at near
  refine near.trans ?_
  unfold exactWealth
  linarith

/-- The value in the pool's asset is near the exact wealth. -/
theorem abs_inAsset_sub_le
    (price_pos : 0 < state.assetPrice.value)
    (rune_nonneg : 0 ≤ rune.value)
    (asset_nonneg : 0 ≤ asset.value)
    (valued : state.spotValue rune asset = .ok value) :
    |value.inAsset.value - state.exactWealthInAsset rune asset| ≤
      (1 + 2 * state.exactWealthInAsset rune asset) / 10 ^ 28 := by
  obtain ⟨runeWorth, assetWorth, runeValued, assetValued, added⟩ :=
    spotValue_eq_ok_iff.mp valued
  have kept : assetWorth.inAsset = asset :=
    (Valuation.ofAsset_eq_ok_iff.mp assetValued).1
  have worth_nonneg : 0 ≤ rune.value / state.assetPrice.value := by
    positivity
  have runeNear :=
    Valuation.abs_inAsset_sub_le price_pos.ne' runeValued
  simp only [spotPrice, abs_of_nonneg worth_nonneg] at runeNear
  have near :=
    Checked.abs_sum_sub_le_of_near (Valuation.add_eq_ok_iff.mp added .asset)
      runeNear
      (show |assetWorth.inAsset.value - asset.value| ≤ 0 by simp [kept])
  rw [abs_of_nonneg (add_nonneg worth_nonneg asset_nonneg)] at near
  rw [exactWealthInAsset_eq price_pos]
  refine near.trans ?_
  linarith

/-- The value in dollars is near the exact wealth. -/
theorem abs_inUsd_sub_le
    (price_pos : 0 < state.assetPrice.value)
    (usd_nonneg : 0 ≤ state.assetPriceUsd.value)
    (rune_nonneg : 0 ≤ rune.value)
    (asset_nonneg : 0 ≤ asset.value)
    (valued : state.spotValue rune asset = .ok value) :
    |value.inUsd.value - state.exactWealthInUsd rune asset| ≤
      (2 + state.assetPriceUsd.value +
          3 * state.exactWealthInUsd rune asset) / 10 ^ 28 := by
  obtain ⟨runeWorth, assetWorth, runeValued, assetValued, added⟩ :=
    spotValue_eq_ok_iff.mp valued
  have rune_worth_nonneg :
      0 ≤ rune.value / state.assetPrice.value *
        state.assetPriceUsd.value := by
    positivity
  have asset_worth_nonneg : 0 ≤ asset.value * state.assetPriceUsd.value := by
    positivity
  have runeNear :=
    Valuation.abs_inUsd_sub_le_of_ofRune price_pos.ne' runeValued
  simp only [spotPrice, abs_of_nonneg usd_nonneg,
    abs_of_nonneg rune_worth_nonneg] at runeNear
  have assetNear := Valuation.abs_inUsd_sub_le_of_ofAsset assetValued
  simp only [spotPrice, abs_of_nonneg asset_worth_nonneg] at assetNear
  have near :=
    Checked.abs_sum_sub_le_of_near (Valuation.add_eq_ok_iff.mp added .usd)
      runeNear assetNear
  rw [abs_of_nonneg (add_nonneg rune_worth_nonneg asset_worth_nonneg)]
    at near
  rw [exactWealthInUsd_eq price_pos]
  refine near.trans ?_
  linarith

/-- Amounts that are not negative have no negative value at such prices. -/
theorem nonneg_of_spotValue
    (priceNonneg : state.spotPrice.Nonneg)
    (rune_nonneg : 0 ≤ rune.value)
    (asset_nonneg : 0 ≤ asset.value)
    (valued : state.spotValue rune asset = .ok value)
    (unit : Denomination) :
    0 ≤ value.valueIn unit := by
  obtain ⟨same, found, upTo⟩ :=
    exists_spotValue_upTo priceNonneg ⟨rune_nonneg, le_rfl⟩
      ⟨asset_nonneg, le_rfl⟩ valued
  cases valued.symm.trans found
  exact (upTo unit).nonneg

end PoolState

/--
At a spot price above zero and a price in dollars that is not negative, the
three values of what can be redeemed are near one exact wealth, each in its
unit and up to an error relative to what is multiplied; and neither an amount
nor a value is negative.
-/
theorem redeemable_values_tell_one_wealth
    {position : Position}
    {state : PoolState}
    {redeemable : Flow}
    (price_pos : 0 < state.assetPrice.value)
    (usd_nonneg : 0 ≤ state.assetPriceUsd.value)
    (redeemed : position.redeemable state = .ok redeemable) :
    let wealth := state.exactWealth redeemable.rune redeemable.asset
    let wealthInAsset :=
      state.exactWealthInAsset redeemable.rune redeemable.asset
    let wealthInUsd :=
      state.exactWealthInUsd redeemable.rune redeemable.asset
    |redeemable.value.inRune.value - wealth| ≤
        (1 + 2 * wealth) / 10 ^ 28 ∧
      |redeemable.value.inAsset.value - wealthInAsset| ≤
        (1 + 2 * wealthInAsset) / 10 ^ 28 ∧
      |redeemable.value.inUsd.value - wealthInUsd| ≤
        (2 + state.assetPriceUsd.value + 3 * wealthInUsd) / 10 ^ 28 ∧
      0 ≤ redeemable.rune.value ∧
      0 ≤ redeemable.asset.value ∧
      ∀ unit, 0 ≤ redeemable.value.valueIn unit := by
  obtain ⟨runeShared, assetShared, valued⟩ :=
    Position.redeemable_eq_ok_iff.mp redeemed
  have rune_nonneg := Checked.nonneg_of_proRata runeShared
  have asset_nonneg := Checked.nonneg_of_proRata assetShared
  exact ⟨
    PoolState.abs_inRune_sub_le price_pos rune_nonneg asset_nonneg valued,
    PoolState.abs_inAsset_sub_le price_pos rune_nonneg asset_nonneg valued,
    PoolState.abs_inUsd_sub_le price_pos usd_nonneg rune_nonneg asset_nonneg
      valued,
    rune_nonneg, asset_nonneg,
    PoolState.nonneg_of_spotValue ⟨price_pos.le, usd_nonneg⟩ rune_nonneg
      asset_nonneg valued⟩

namespace Sample

/-- A pool whose asset has a price that is close to nothing. -/
def cheapState : PoolState :=
  { state with
    liquidityUnits := whole 97
    assetPrice := ⟨7, 16, by decide, by decide, .inr (by decide)⟩
    assetPriceUsd := ⟨13, 20, by decide, by decide, .inr (by decide)⟩ }

end Sample

/--
A share of a pool whose asset is almost worthless has a value near its wealth.
-/
theorem redeemable_values_tell_one_wealth_sample :
    0 < Sample.cheapState.assetPrice.value ∧
    0 ≤ Sample.cheapState.assetPriceUsd.value ∧
    ∃ redeemable,
      Sample.position.redeemable Sample.cheapState = .ok redeemable ∧
      |redeemable.value.inUsd.value -
          Sample.cheapState.exactWealthInUsd redeemable.rune
            redeemable.asset| ≤
        (2 + Sample.cheapState.assetPriceUsd.value +
            3 * Sample.cheapState.exactWealthInUsd redeemable.rune
              redeemable.asset) / 10 ^ 28 := by
  have price_pos : 0 < Sample.cheapState.assetPrice.value := by
    decide +kernel
  have usd_nonneg : 0 ≤ Sample.cheapState.assetPriceUsd.value := by
    decide +kernel
  obtain ⟨redeemable, redeemed⟩ :=
    Outcome.exists_of_toOption_isSome
      (show (Sample.position.redeemable
          Sample.cheapState).toOption.isSome = true by
        decide +kernel)
  exact ⟨price_pos, usd_nonneg, redeemable, redeemed,
    (redeemable_values_tell_one_wealth price_pos usd_nonneg redeemed).2.2.1⟩

end LiquidityReturns
