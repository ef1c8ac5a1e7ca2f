import LiquidityReturns.Codec.Ledger
import LiquidityReturns.Returns.Report

namespace LiquidityReturns

/-!
# JSON form of summaries and reports

A summary is a flat record of its twenty-one numbers.  A report is a nested
record that is only written.
-/

namespace ReturnSummary

/-- The numbers of a summary by field name, in order. -/
def namedNumbers (summary : ReturnSummary) : List (String × Decimal) :=
  [("addedRune", summary.added.rune),
    ("addedAsset", summary.added.asset),
    ("addedValueInRune", summary.added.value.inRune),
    ("addedValueInAsset", summary.added.value.inAsset),
    ("addedValueInUsd", summary.added.value.inUsd),
    ("withdrawnRune", summary.withdrawn.rune),
    ("withdrawnAsset", summary.withdrawn.asset),
    ("withdrawnValueInRune", summary.withdrawn.value.inRune),
    ("withdrawnValueInAsset", summary.withdrawn.value.inAsset),
    ("withdrawnValueInUsd", summary.withdrawn.value.inUsd),
    ("redeemableRune", summary.redeemable.rune),
    ("redeemableAsset", summary.redeemable.asset),
    ("redeemableValueInRune", summary.redeemable.value.inRune),
    ("redeemableValueInAsset", summary.redeemable.value.inAsset),
    ("redeemableValueInUsd", summary.redeemable.value.inUsd),
    ("realizedReturnValueInRune", summary.realizedReturn.inRune),
    ("realizedReturnValueInAsset", summary.realizedReturn.inAsset),
    ("realizedReturnValueInUsd", summary.realizedReturn.inUsd),
    ("totalReturnValueInRune", summary.totalReturn.inRune),
    ("totalReturnValueInAsset", summary.totalReturn.inAsset),
    ("totalReturnValueInUsd", summary.totalReturn.inUsd)]

def fieldNames : List String :=
  zero.namedNumbers.map Prod.fst

def toJson (summary : ReturnSummary) : Json :=
  .record
    (summary.namedNumbers.map fun (name, number) => (name, number.toJson))

/-- Read the three values with a common start of their field names. -/
def readValuation?
    (fields : List (String × Json))
    (start : String) :
    Option Valuation := do
  let inRune ← Json.required fields (start ++ "InRune") Decimal.ofJson?
  let inAsset ← Json.required fields (start ++ "InAsset") Decimal.ofJson?
  let inUsd ← Json.required fields (start ++ "InUsd") Decimal.ofJson?
  return { inRune, inAsset, inUsd }

/-- Read a flow with a common start of its field names. -/
def readFlow?
    (fields : List (String × Json))
    (start : String) :
    Option Flow := do
  let rune ← Json.required fields (start ++ "Rune") Decimal.ofJson?
  let asset ← Json.required fields (start ++ "Asset") Decimal.ofJson?
  let value ← readValuation? fields (start ++ "Value")
  return { rune, asset, value }

def ofJson? (document : Json) : Option ReturnSummary := do
  let fields ← document.record? fieldNames
  let added ← readFlow? fields "added"
  let withdrawn ← readFlow? fields "withdrawn"
  let redeemable ← readFlow? fields "redeemable"
  let realizedReturn ← readValuation? fields "realizedReturnValue"
  let totalReturn ← readValuation? fields "totalReturnValue"
  return { added, withdrawn, redeemable, realizedReturn, totalReturn }

end ReturnSummary

namespace SideReport

/-- The record of one side; the percentage is left out when there is none. -/
def toJson (report : SideReport) : Json :=
  .record
    ([("added", report.added.toJson),
      ("withdrawn", report.withdrawn.toJson),
      ("redeemable", report.redeemable.toJson),
      ("gain", report.gain.toJson)] ++
      Json.presentField "gainPercent" Decimal.toJson report.gainPercent)

end SideReport

namespace ValueReport

/-- The record of the values in one unit of account. -/
def toJson (report : ValueReport) : Json :=
  .record
    [("added", report.added.toJson),
      ("withdrawn", report.withdrawn.toJson),
      ("redeemable", report.redeemable.toJson),
      ("realizedReturn", report.realizedReturn.toJson),
      ("totalReturn", report.totalReturn.toJson)]

end ValueReport

namespace PositionReport

def toJson (report : PositionReport) : Json :=
  .record
    [("rune", report.rune.toJson),
      ("asset", report.asset.toJson),
      ("valueInRune", report.valueInRune.toJson),
      ("valueInAsset", report.valueInAsset.toJson),
      ("valueInUsd", report.valueInUsd.toJson)]

end PositionReport

end LiquidityReturns
