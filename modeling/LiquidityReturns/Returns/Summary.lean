import LiquidityReturns.Returns.Accumulation
import LiquidityReturns.Returns.Redeemable

namespace LiquidityReturns

/-!
# The summary of a position's returns

The realized return is what was withdrawn less what was added; the total
return adds what can still be redeemed.  `computeReturns` puts accumulation,
redemption and summary together.
-/

/-- The flows of a position and its returns in the three units of account. -/
structure ReturnSummary where
  added : Flow
  withdrawn : Flow
  redeemable : Flow
  realizedReturn : Valuation
  totalReturn : Valuation
  deriving Repr, DecidableEq

namespace ReturnSummary

/-- A summary in which every amount is zero. -/
def zero : ReturnSummary where
  added := .zero
  withdrawn := .zero
  redeemable := .zero
  realizedReturn := .zero
  totalReturn := .zero

/-- Summarize the totals of a position and what it can redeem. -/
def ofFlows
    (totals : FlowTotals)
    (redeemable : Flow) :
    Except ComputationError ReturnSummary := do
  let realizedReturn ←
    computing "realized return"
      (totals.withdrawn.value.sub totals.added.value)
  let totalReturn ←
    computing "total return"
      (realizedReturn.add redeemable.value)
  return {
    added := totals.added
    withdrawn := totals.withdrawn
    redeemable
    realizedReturn
    totalReturn
  }

/--
Whether the added or withdrawn amounts differ from the totals of the ledger
itself.
-/
def differsFromLedger
    (summary : ReturnSummary)
    (member : MemberPool) :
    Bool :=
  summary.added.rune ≠ member.runeAdded ∨
    summary.added.asset ≠ member.assetAdded ∨
    summary.withdrawn.rune ≠ member.runeWithdrawn ∨
    summary.withdrawn.asset ≠ member.assetWithdrawn

end ReturnSummary

/--
The returns of a position in its pool.  Actions may come in any order and may
include unsettled and unrelated ones.
-/
def computeReturns
    (position : Position)
    (state : PoolState)
    (actions : List Action)
    (prices : PriceHistory) :
    Except ComputationError ReturnSummary := do
  let totals ←
    FlowTotals.ofActions { pool := position.pool, prices } actions
  let redeemable ← position.redeemable state
  ReturnSummary.ofFlows totals redeemable

end LiquidityReturns
