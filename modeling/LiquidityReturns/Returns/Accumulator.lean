import LiquidityReturns.Returns.Accumulation

namespace LiquidityReturns

/-!
# An accumulator that goes on after failures

An accumulator keeps the totals of a market from call to call.  A call
processes one action and may fail; what it did to the totals before it failed
is not undone, and the next call starts from there.
-/

/--
A computation on the totals of an accumulator, which stay as they are when it
fails.
-/
abbrev Accumulating :=
  ExceptT ComputationError (StateM FlowTotals)

/--
One call on an accumulator, with the totals that it found and that it left.
-/
structure AccumulatorCall where
  action : Action
  before : FlowTotals
  answer : Except ComputationError ActionOutcome
  after : FlowTotals

namespace Accumulator

/-- Take over the result of a computation that does not see the totals. -/
def settle (result : Except ComputationError α) : Accumulating α :=
  ExceptT.mk (pure result)

/-- Add the net inbound flow of an addition to what was added. -/
def absorbAddition
    (action : Action)
    (inflow outflow : Flow) :
    Accumulating Unit := do
  let totals ← get
  let added ← settle <|
    computing (action.describe "added totals") do
      totals.added.add (← inflow.sub outflow)
  set { totals with added }

/-- Add the net outbound flow of a withdrawal to what was withdrawn. -/
def absorbWithdrawal
    (action : Action)
    (inflow outflow : Flow) :
    Accumulating Unit := do
  let totals ← get
  let withdrawn ← settle <|
    computing (action.describe "withdrawn totals") do
      totals.withdrawn.add (← outflow.sub inflow)
  set { totals with withdrawn }

/-- Call an accumulator with an action that was settled in exactly its pool. -/
def callCounted (market : Market) (action : Action) :
    Accumulating ActionOutcome :=
  match action.kind with
  | .other _ =>
      pure .unsupportedKind
  | .addLiquidity => do
      let (inflow, outflow) ← settle (action.flows market)
      absorbAddition action inflow outflow
      return .added
  | .withdraw => do
      let (inflow, outflow) ← settle (action.flows market)
      absorbWithdrawal action inflow outflow
      return .withdrawn

/-- Call an accumulator with an action. -/
def call (market : Market) (action : Action) : Accumulating ActionOutcome :=
  if action.isSuccess then
    match action.touchesOnly? market.pool with
    | none =>
        throw (.malformedAction action.kind action.date .pools)
    | some false =>
        pure .otherPools
    | some true =>
        callCounted market action
  else
    pure .notSuccessful

/-- Call an accumulator with an action and record the call. -/
def recordCall (market : Market) (action : Action) :
    StateM FlowTotals AccumulatorCall := do
  let before ← get
  let answer ← (call market action).run
  let after ← get
  return { action, before, answer, after }

/-- Call an accumulator with actions in order, whether or not calls fail. -/
def callAll (market : Market) (actions : List Action) :
    StateM FlowTotals (List AccumulatorCall) :=
  actions.mapM (recordCall market)

end Accumulator

end LiquidityReturns
