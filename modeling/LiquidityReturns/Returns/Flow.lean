import LiquidityReturns.Returns.Valuation

namespace LiquidityReturns

/-!
# Flows

A flow is what moved in one direction: the amounts of the base asset and of
the pool's asset, and their value.
-/

/-- The amounts of one direction of flow and their value. -/
structure Flow where
  rune : Decimal
  asset : Decimal
  value : Valuation
  deriving Repr, DecidableEq

namespace Flow

/-- Nothing moved. -/
def zero : Flow where
  rune := .zero
  asset := .zero
  value := .zero

def add (left right : Flow) : Except ArithmeticError Flow := do
  let rune ← Checked.add left.rune right.rune
  let asset ← Checked.add left.asset right.asset
  let value ← left.value.add right.value
  return { rune, asset, value }

def sub (left right : Flow) : Except ArithmeticError Flow := do
  let rune ← Checked.sub left.rune right.rune
  let asset ← Checked.sub left.asset right.asset
  let value ← left.value.sub right.value
  return { rune, asset, value }

/-- Add the amount of one coin; a coin outside the position adds none. -/
def addAmount
    (flow : Flow)
    (pool : Asset)
    (coin : Coin) :
    Except ArithmeticError Flow :=
  if coin.asset.isRune then do
    let rune ← Checked.add flow.rune coin.amount
    return { flow with rune }
  else if coin.asset = pool then do
    let asset ← Checked.add flow.asset coin.amount
    return { flow with asset }
  else
    .ok flow

/--
Add the value of one coin at a price; without a price nothing has a value.
-/
def addValue
    (flow : Flow)
    (pool : Asset)
    (price : Option PriceAt)
    (coin : Coin) :
    Except ArithmeticError Flow :=
  match price with
  | none =>
      .ok flow
  | some price => do
      let worth ← Valuation.ofCoin coin pool price
      let value ← flow.value.add worth
      return { flow with value }

/-- Add one coin, first its amount and then its value. -/
def addCoin
    (pool : Asset)
    (price : Option PriceAt)
    (flow : Flow)
    (coin : Coin) :
    Except ArithmeticError Flow := do
  let counted ← flow.addAmount pool coin
  counted.addValue pool price coin

def ofCoins
    (pool : Asset)
    (price : Option PriceAt)
    (coins : List Coin) :
    Except ArithmeticError Flow :=
  coins.foldlM (addCoin pool price) zero

def ofTransfers
    (pool : Asset)
    (price : Option PriceAt)
    (transfers : List Transfer) :
    Except ArithmeticError Flow :=
  ofCoins pool price (Transfer.allCoins transfers)

end Flow

/-- Everything added to and withdrawn from a pool. -/
structure FlowTotals where
  added : Flow
  withdrawn : Flow
  deriving Repr, DecidableEq

namespace FlowTotals

/-- Nothing added and nothing withdrawn. -/
def zero : FlowTotals where
  added := .zero
  withdrawn := .zero

end FlowTotals

end LiquidityReturns
