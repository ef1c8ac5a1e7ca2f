import Mathlib
import LiquidityReturns.Proofs.Returns.Steps
import LiquidityReturns.Returns.Summary

namespace LiquidityReturns

/-!
# Which prices a computation uses

A computation looks up prices only in the seconds of actions that count.  Two
histories that agree in these seconds give the same summary or the same
failure, however they differ elsewhere.
-/

/-- Two histories give the same answers in one second. -/
def PriceHistory.AgreesAt
    (left right : PriceHistory)
    (second : Second) : Prop :=
  left.inRune.get? second = right.inRune.get? second ∧
    left.inUsd.get? second = right.inUsd.get? second

/--
Two histories give the same answers in the seconds of all actions that count.
-/
def PriceHistory.AgreesOn
    (left right : PriceHistory)
    (pool : Asset)
    (actions : List Action) : Prop :=
  ∀ action ∈ actions,
    action.counts pool = true → left.AgreesAt right action.date.second

/-- The net flow of an action depends on the prices in its second alone. -/
theorem Action.netFlow_congr
    {pool : Asset}
    {left right : PriceHistory}
    {action : Action}
    (agree : left.AgreesAt right action.date.second)
    (side : FlowSide) :
    action.netFlow { pool := pool, prices := left } side =
      action.netFlow { pool := pool, prices := right } side := by
  have samePrice :
      Market.priceAt { pool := pool, prices := left } action =
        Market.priceAt { pool := pool, prices := right } action := by
    unfold Market.priceAt
    simp only [agree.1, agree.2]
  unfold netFlow flows Market.neededPrice
  simp only [samePrice]
  rfl

/-- What an action does to the totals depends on prices only if it counts. -/
theorem FlowTotals.step_congr
    {pool : Asset}
    {left right : PriceHistory}
    {action : Action}
    (agree :
      action.counts pool = true → left.AgreesAt right action.date.second)
    (totals : FlowTotals) :
    totals.step { pool := pool, prices := left } action =
      totals.step { pool := pool, prices := right } action := by
  cases sided : action.side? pool with
  | some side =>
      have counted := (Action.side?_eq_some_iff.mp sided).1
      rw [step_of_side sided, step_of_side sided,
        Action.netFlow_congr (agree counted)]
  | none =>
      have ignored := Action.counts_eq_false_of_side?_eq_none sided
      rw [step_of_uncounted ignored, step_of_uncounted ignored]

/--
Histories that agree in the seconds of the actions that count give the same
returns.
-/
theorem computeReturns_congr
    {position : Position}
    {left right : PriceHistory}
    {actions : List Action}
    (agree : left.AgreesOn right position.pool actions)
    (state : PoolState) :
    computeReturns position state actions left =
      computeReturns position state actions right := by
  unfold computeReturns FlowTotals.ofActions
  rw [Outcome.foldlM_congr fun action member totals =>
    FlowTotals.step_congr (agree action member) totals]

end LiquidityReturns
