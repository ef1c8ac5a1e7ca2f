import LiquidityReturns.Returns.Summary

namespace LiquidityReturns

/-!
# The report of a position

A report shows the numbers of a summary in whole coins.  For each side of the
pool it adds the gain, what is held less what was added, and the gain in
percent of what was added when anything was.
-/

/-- The amounts of one side of a pool, in whole coins. -/
structure SideReport where
  added : Decimal
  withdrawn : Decimal
  redeemable : Decimal
  gain : Decimal
  gainPercent : Option Decimal
  deriving Repr, DecidableEq

/-- The values in one unit of account, in whole coins. -/
structure ValueReport where
  added : Decimal
  withdrawn : Decimal
  redeemable : Decimal
  realizedReturn : Decimal
  totalReturn : Decimal
  deriving Repr, DecidableEq

/--
The report of a position: both sides of the pool and the three units of
account.
-/
structure PositionReport where
  rune : SideReport
  asset : SideReport
  valueInRune : ValueReport
  valueInAsset : ValueReport
  valueInUsd : ValueReport
  deriving Repr, DecidableEq

namespace SideReport

/-- What is held over what was added, less one, in percent. -/
def percent
    (held added : Decimal) :
    Except ArithmeticError Decimal := do
  let ratio ← Checked.div held added
  let excess ← Checked.sub ratio .one
  Checked.mul excess .hundred

/-- The gain in percent; there is none when nothing was added. -/
def percentGain
    (held added : Decimal) :
    Except ArithmeticError (Option Decimal) :=
  if added.isZero then
    .ok none
  else
    (percent held added).map some

/-- The report of one side from its amounts in the scale of the ledger. -/
def ofAmounts
    (added withdrawn redeemable : Decimal) :
    Except ArithmeticError SideReport := do
  let held ← Checked.add redeemable.descaled withdrawn.descaled
  let gain ← Checked.sub held added.descaled
  let gainPercent ← percentGain held added.descaled
  return {
    added := added.descaled
    withdrawn := withdrawn.descaled
    redeemable := redeemable.descaled
    gain
    gainPercent
  }

end SideReport

namespace ValueReport

/-- The report of the values of a summary in one unit of account. -/
def ofSummary
    (summary : ReturnSummary)
    (unit : Valuation → Decimal) :
    ValueReport where
  added := (unit summary.added.value).descaled
  withdrawn := (unit summary.withdrawn.value).descaled
  redeemable := (unit summary.redeemable.value).descaled
  realizedReturn := (unit summary.realizedReturn).descaled
  totalReturn := (unit summary.totalReturn).descaled

end ValueReport

namespace PositionReport

def ofSummary
    (summary : ReturnSummary) :
    Except ComputationError PositionReport := do
  let rune ←
    computing "rune gain"
      (SideReport.ofAmounts summary.added.rune summary.withdrawn.rune
        summary.redeemable.rune)
  let asset ←
    computing "asset gain"
      (SideReport.ofAmounts summary.added.asset summary.withdrawn.asset
        summary.redeemable.asset)
  return {
    rune
    asset
    valueInRune := .ofSummary summary Valuation.inRune
    valueInAsset := .ofSummary summary Valuation.inAsset
    valueInUsd := .ofSummary summary Valuation.inUsd
  }

end PositionReport

end LiquidityReturns
