import LiquidityReturns.Prices.Series
import LiquidityReturns.Returns.Flow

namespace LiquidityReturns

/-!
# Accumulation of actions

Each action that counts towards a position adds its net flow to one of two
totals: what was added or what was withdrawn.  Only historical prices are
looked up, and only for an action that moves a coin of the position; the state
of the pool plays no part.
-/

/-- What an action did to the totals. -/
inductive ActionOutcome where
  | added
  | withdrawn
  | notSuccessful
  | otherPools
  | unsupportedKind
  deriving Repr, DecidableEq

/-- The pool whose flows are accumulated, and its price history. -/
structure Market where
  pool : Asset
  prices : PriceHistory

namespace Market

/-- Whether transfers move a coin of the position that is not zero. -/
def movesPosition (market : Market) (transfers : List Transfer) : Bool :=
  (Transfer.allCoins transfers).any fun coin =>
    coin.inPosition market.pool && !coin.amount.isZero

/-- The prices in the second of an action; both must exist. -/
def priceAt
    (market : Market)
    (action : Action) :
    Except ComputationError PriceAt :=
  let second := action.date.second
  match market.prices.inRune.get? second with
  | none =>
      .error (.missingPrice action.kind action.date second .rune)
  | some inRune =>
      match market.prices.inUsd.get? second with
      | none =>
          .error (.missingPrice action.kind action.date second .usd)
      | some inUsd =>
          .ok { inRune, inUsd }

/--
The prices that an action needs: none when it moves no coin of the position.
-/
def neededPrice
    (market : Market)
    (action : Action)
    (inputs outputs : List Transfer) :
    Except ComputationError (Option PriceAt) :=
  if market.movesPosition inputs || market.movesPosition outputs then
    (market.priceAt action).map some
  else
    .ok none

end Market

namespace Action

/-- Describe a quantity of an action in the wording of errors. -/
def describe (action : Action) (quantity : String) : String :=
  s!"{quantity} of {action.kind} action dated {action.date}"

/-- A part of an action that must be present. -/
def part
    (action : Action)
    (name : ActionPart)
    (value : Option α) :
    Except ComputationError α :=
  match value with
  | none =>
      .error (.malformedAction action.kind action.date name)
  | some value =>
      .ok value

/-- The two flows of an action, inbound and outbound. -/
def flows
    (action : Action)
    (market : Market) :
    Except ComputationError (Flow × Flow) := do
  let inputs ← action.part .inputs action.inputs
  let outputs ← action.part .outputs action.outputs
  let price ← market.neededPrice action inputs outputs
  let inflow ←
    computing (action.describe "inbound flow")
      (Flow.ofTransfers market.pool price inputs)
  let outflow ←
    computing (action.describe "outbound flow")
      (Flow.ofTransfers market.pool price outputs)
  return (inflow, outflow)

end Action

namespace FlowTotals

/-- Add the net inbound flow of an addition. -/
def addAddition
    (totals : FlowTotals)
    (action : Action)
    (inflow outflow : Flow) :
    Except ComputationError FlowTotals := do
  let added ←
    computing (action.describe "added totals") do
      totals.added.add (← inflow.sub outflow)
  return { totals with added }

/-- Add the net outbound flow of a withdrawal. -/
def addWithdrawal
    (totals : FlowTotals)
    (action : Action)
    (inflow outflow : Flow) :
    Except ComputationError FlowTotals := do
  let withdrawn ←
    computing (action.describe "withdrawn totals") do
      totals.withdrawn.add (← outflow.sub inflow)
  return { totals with withdrawn }

/-- Process one action that was settled in exactly the pool of the market. -/
def processCounted
    (market : Market)
    (totals : FlowTotals)
    (action : Action) :
    Except ComputationError (ActionOutcome × FlowTotals) :=
  match action.kind with
  | .other _ =>
      .ok (.unsupportedKind, totals)
  | .addLiquidity => do
      let (inflow, outflow) ← action.flows market
      return (.added, ← totals.addAddition action inflow outflow)
  | .withdraw => do
      let (inflow, outflow) ← action.flows market
      return (.withdrawn, ← totals.addWithdrawal action inflow outflow)

/-- Process one action; on failure the totals are those before it. -/
def process
    (market : Market)
    (totals : FlowTotals)
    (action : Action) :
    Except ComputationError (ActionOutcome × FlowTotals) :=
  if action.isSuccess then
    match action.touchesOnly? market.pool with
    | none =>
        .error (.malformedAction action.kind action.date .pools)
    | some false =>
        .ok (.otherPools, totals)
    | some true =>
        processCounted market totals action
  else
    .ok (.notSuccessful, totals)

/-- The totals after one action. -/
def step
    (market : Market)
    (totals : FlowTotals)
    (action : Action) :
    Except ComputationError FlowTotals :=
  (totals.process market action).map Prod.snd

/-- The totals of actions in order; the first failure ends the computation. -/
def ofActions
    (market : Market)
    (actions : List Action) :
    Except ComputationError FlowTotals :=
  actions.foldlM (step market) zero

end FlowTotals

end LiquidityReturns
