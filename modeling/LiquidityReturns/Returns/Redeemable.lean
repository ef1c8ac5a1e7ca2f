import LiquidityReturns.Returns.Flow

namespace LiquidityReturns

/-!
# What a position can redeem

A position may redeem its share of the pool's current reserves.  The share is
valued at the spot price of the pool, not at any historical price.
-/

namespace PoolState

/-- The spot prices of a pool. -/
def spotPrice (state : PoolState) : PriceAt where
  inRune := state.assetPrice
  inUsd := state.assetPriceUsd

/-- The value of two amounts at the spot price. -/
def spotValue
    (state : PoolState)
    (rune asset : Decimal) :
    Except ArithmeticError Valuation := do
  let runeInAsset ← Checked.div rune state.assetPrice
  let assetInRune ← Checked.mul asset state.assetPrice
  let inRune ← Checked.add rune assetInRune
  let inAsset ← Checked.add runeInAsset asset
  let runeInUsd ← Checked.mul runeInAsset state.assetPriceUsd
  let assetInUsd ← Checked.mul asset state.assetPriceUsd
  let inUsd ← Checked.add runeInUsd assetInUsd
  return { inRune, inAsset, inUsd }

end PoolState

namespace Position

/-- Describe a redeemable quantity of a position in the wording of errors. -/
def describeRedeemable (position : Position) (quantity : String) : String :=
  s!"redeemable {quantity} of {position.pool}"

/--
The share of the current reserves that a position may redeem, with its value.
-/
def redeemable
    (position : Position)
    (state : PoolState) :
    Except ComputationError Flow := do
  let rune ←
    computing (position.describeRedeemable "rune")
      (Checked.proRata position.liquidityUnits state.runeDepth
        state.liquidityUnits)
  let asset ←
    computing (position.describeRedeemable "asset")
      (Checked.proRata position.liquidityUnits state.assetDepth
        state.liquidityUnits)
  let value ←
    computing (position.describeRedeemable "value")
      (state.spotValue rune asset)
  return { rune, asset, value }

end Position

end LiquidityReturns
