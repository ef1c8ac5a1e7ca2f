import LiquidityReturns.Codec.Ledger
import LiquidityReturns.Pool.State
import LiquidityReturns.Text.Integer

namespace LiquidityReturns

/-!
# JSON form of pools and positions

Whole amounts are plain numbers over their full range of 128 bits.  The
addresses of a member are written as `null` when absent.
-/

namespace WholeAmount

def toJson (amount : WholeAmount) : Json :=
  Json.ofNat amount.val

/-- The whole amount of a natural number, if it is below `2 ^ 128`. -/
def ofNat? (natural : Nat) : Option WholeAmount :=
  if bounded : natural < Nat.pow 2 128 then
    some ⟨natural, bounded⟩
  else
    none

def ofJson? (document : Json) : Option WholeAmount := do
  ofNat? (← document.nat? (Nat.pow 2 128 - 1))

def read (text : String) : Except Text.IntegerError WholeAmount :=
  match accepted : Text.readNat (Nat.pow 2 128 - 1) text with
  | .error failure =>
      .error failure
  | .ok amount =>
      .ok ⟨amount, by
        have bounded := Text.readNat_le accepted
        exact Nat.lt_of_le_pred (by decide) bounded⟩

end WholeAmount

namespace Position

def fieldNames : List String :=
  ["pool", "liquidityUnits"]

def toJson (position : Position) : Json :=
  .record
    [("pool", position.pool.toJson),
      ("liquidityUnits", WholeAmount.toJson position.liquidityUnits)]

def ofJson? (document : Json) : Option Position := do
  let fields ← document.record? fieldNames
  let pool ← Json.required fields "pool" Asset.ofJson?
  let liquidityUnits ←
    Json.required fields "liquidityUnits" WholeAmount.ofJson?
  return { pool, liquidityUnits }

end Position

namespace MemberPool

def fieldNames : List String :=
  ["position", "runeAddress", "assetAddress", "runeAdded", "assetAdded",
    "runeWithdrawn", "assetWithdrawn"]

def toJson (member : MemberPool) : Json :=
  .record
    [("position", member.position.toJson),
      ("runeAddress", Json.ofOption Address.toJson member.runeAddress),
      ("assetAddress", Json.ofOption Address.toJson member.assetAddress),
      ("runeAdded", member.runeAdded.toJson),
      ("assetAdded", member.assetAdded.toJson),
      ("runeWithdrawn", member.runeWithdrawn.toJson),
      ("assetWithdrawn", member.assetWithdrawn.toJson)]

def ofJson? (document : Json) : Option MemberPool := do
  let fields ← document.record? fieldNames
  let position ← Json.required fields "position" Position.ofJson?
  let runeAddress ← Json.optional fields "runeAddress" Address.ofJson?
  let assetAddress ← Json.optional fields "assetAddress" Address.ofJson?
  let runeAdded ← Json.required fields "runeAdded" Decimal.ofJson?
  let assetAdded ← Json.required fields "assetAdded" Decimal.ofJson?
  let runeWithdrawn ← Json.required fields "runeWithdrawn" Decimal.ofJson?
  let assetWithdrawn ←
    Json.required fields "assetWithdrawn" Decimal.ofJson?
  return {
    position, runeAddress, assetAddress, runeAdded, assetAdded,
    runeWithdrawn, assetWithdrawn
  }

end MemberPool

namespace PoolState

def fieldNames : List String :=
  ["liquidityUnits", "runeDepth", "assetDepth", "assetPrice", "assetPriceUSD"]

def toJson (state : PoolState) : Json :=
  .record
    [("liquidityUnits", WholeAmount.toJson state.liquidityUnits),
      ("runeDepth", WholeAmount.toJson state.runeDepth),
      ("assetDepth", WholeAmount.toJson state.assetDepth),
      ("assetPrice", state.assetPrice.toJson),
      ("assetPriceUSD", state.assetPriceUsd.toJson)]

def ofJson? (document : Json) : Option PoolState := do
  let fields ← document.record? fieldNames
  let liquidityUnits ←
    Json.required fields "liquidityUnits" WholeAmount.ofJson?
  let runeDepth ← Json.required fields "runeDepth" WholeAmount.ofJson?
  let assetDepth ← Json.required fields "assetDepth" WholeAmount.ofJson?
  let assetPrice ← Json.required fields "assetPrice" Decimal.ofJson?
  let assetPriceUsd ← Json.required fields "assetPriceUSD" Decimal.ofJson?
  return { liquidityUnits, runeDepth, assetDepth, assetPrice, assetPriceUsd }

end PoolState

end LiquidityReturns
