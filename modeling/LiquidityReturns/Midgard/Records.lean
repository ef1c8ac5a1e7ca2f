import LiquidityReturns.Midgard.Fields
import LiquidityReturns.Source.Basic

namespace LiquidityReturns

/-!
# Midgard's records

The four documents that Midgard answers with: a member's positions, the state
of a pool, a page of actions and the depth history of a pool.  Lists of an
action that are missing stay missing, so that the computation can report them.
-/

namespace Midgard

/-- Read a member's position in one pool. -/
def readMemberPool (record : Json) : Except RecordError MemberPool := do
  let pool ← textField record "pool"
  let liquidityUnits ← wholeField record "liquidityUnits"
  let runeAdded ← optionalDecimalField record "runeAdded"
  let assetAdded ← optionalDecimalField record "assetAdded"
  let runeWithdrawn ← optionalDecimalField record "runeWithdrawn"
  let assetWithdrawn ← optionalDecimalField record "assetWithdrawn"
  return {
    position := { pool := ⟨pool⟩, liquidityUnits }
    runeAddress := optionalAddress? record "runeAddress"
    assetAddress := optionalAddress? record "assetAddress"
    runeAdded, assetAdded, runeWithdrawn, assetWithdrawn
  }

def readMember (document : Json) : Except RecordError (List MemberPool) := do
  let pools ←
    orError (.missingField "pools")
      ((document.field? "pools").bind Json.array?)
  pools.mapM readMemberPool

/-- Read the liquidity units of a pool, which older records call `units`. -/
def readPoolUnits (document : Json) : Except RecordError WholeAmount :=
  match present? document "liquidityUnits" with
  | none =>
      wholeField document "units"
  | some _ =>
      wholeField document "liquidityUnits"

def readPoolState (document : Json) : Except RecordError PoolState := do
  let liquidityUnits ← readPoolUnits document
  let runeDepth ← wholeField document "runeDepth"
  let assetDepth ← wholeField document "assetDepth"
  let assetPrice ← decimalField document "assetPrice"
  let assetPriceUsd ← decimalField document "assetPriceUSD"
  return { liquidityUnits, runeDepth, assetDepth, assetPrice, assetPriceUsd }

def readCoin (record : Json) : Except RecordError Coin := do
  let asset ← textField record "asset"
  let amount ← decimalField record "amount"
  return { asset := ⟨asset⟩, amount }

def readTransfer (record : Json) : Except RecordError Transfer := do
  let coins ← (← arrayField record "coins").mapM readCoin
  return {
    address := optionalAddress? record "address"
    txId := optionalText? record "txID"
    coins
  }

def readPoolName (value : Json) : Except RecordError Asset :=
  (orError .wrongPool value.string?).map Asset.mk

/--
The height of an action; one that is not an integer of 64 bits is dropped.
-/
def height? (record : Json) : Option Int64 := do
  let text ← numericText? (← record.field? "height")
  (Text.readInt64 text).toOption

def readAction (record : Json) : Except RecordError Action := do
  let kind ← textField record "type"
  let status ← textField record "status"
  let date ← integerField record "date"
  let pools ← optionalArrayField record "pools" readPoolName
  let inputs ← optionalArrayField record "in" readTransfer
  let outputs ← optionalArrayField record "out" readTransfer
  return {
    kind := .ofName kind
    status := .ofName status
    date := ⟨date⟩
    height := height? record
    pools, inputs, outputs
  }

/-- Read the number of actions on all pages, below `2 ^ 64`. -/
def readCount (document : Json) : Except RecordError Nat := do
  let count ← wholeField document "count"
  if count.val < Nat.pow 2 64 then
    return count.val
  else
    .error .countTooLarge

def readActionsPage (document : Json) : Except RecordError ActionsPage := do
  let actions ← (← arrayField document "actions").mapM readAction
  let count ← readCount document
  return { actions, count }

/-- Read the first interval of a depth history as a sample. -/
def readPriceSample (document : Json) : Except RecordError PriceSample := do
  let second ← integerField (← field document "meta") "startTime"
  let intervals ← field document "intervals"
  let interval ← orError .noInterval (intervals.array?.bind List.head?)
  let assetPrice ← decimalField interval "assetPrice"
  let assetPriceUsd ← decimalField interval "assetPriceUSD"
  return { second := ⟨second⟩, assetPrice, assetPriceUsd }

end Midgard

end LiquidityReturns
