import LiquidityReturns.Returns.Checked

namespace LiquidityReturns

/-!
# Valuation of coins

A coin of the base asset or of the pool's asset has a value in each of the
three units of account, at the prices of one moment.  Any other coin is worth
nothing here.
-/

/-- The prices of a pool's asset at one moment. -/
structure PriceAt where
  inRune : Decimal
  inUsd : Decimal
  deriving Repr, DecidableEq

/-- A value in the three units of account. -/
structure Valuation where
  inRune : Decimal
  inAsset : Decimal
  inUsd : Decimal
  deriving Repr, DecidableEq

namespace Valuation

/-- No value. -/
def zero : Valuation where
  inRune := .zero
  inAsset := .zero
  inUsd := .zero

/-- The sum of two values, unit by unit. -/
def add (left right : Valuation) : Except ArithmeticError Valuation := do
  let inRune ← Checked.add left.inRune right.inRune
  let inAsset ← Checked.add left.inAsset right.inAsset
  let inUsd ← Checked.add left.inUsd right.inUsd
  return { inRune, inAsset, inUsd }

/-- The difference of two values, unit by unit. -/
def sub (left right : Valuation) : Except ArithmeticError Valuation := do
  let inRune ← Checked.sub left.inRune right.inRune
  let inAsset ← Checked.sub left.inAsset right.inAsset
  let inUsd ← Checked.sub left.inUsd right.inUsd
  return { inRune, inAsset, inUsd }

/-- The value of an amount of the base asset. -/
def ofRune
    (amount : Decimal)
    (price : PriceAt) :
    Except ArithmeticError Valuation := do
  let inAsset ← Checked.div amount price.inRune
  let inUsd ← Checked.mul inAsset price.inUsd
  return { inRune := amount, inAsset, inUsd }

/-- The value of an amount of the pool's asset. -/
def ofAsset
    (amount : Decimal)
    (price : PriceAt) :
    Except ArithmeticError Valuation := do
  let inRune ← Checked.mul amount price.inRune
  let inUsd ← Checked.mul amount price.inUsd
  return { inRune, inAsset := amount, inUsd }

/-- The value of a coin that was moved in a pool. -/
def ofCoin
    (coin : Coin)
    (pool : Asset)
    (price : PriceAt) :
    Except ArithmeticError Valuation :=
  if coin.asset.isRune then
    ofRune coin.amount price
  else if coin.asset = pool then
    ofAsset coin.amount price
  else
    .ok zero

theorem ofCoin_of_not_inPosition
    {coin : Coin}
    {pool : Asset}
    (outside : coin.inPosition pool = false)
    (price : PriceAt) :
    ofCoin coin pool price = .ok zero := by
  simp only [Coin.inPosition, Bool.or_eq_false_iff,
    decide_eq_false_iff_not] at outside
  simp [ofCoin, outside.1, outside.2]

end Valuation

end LiquidityReturns
