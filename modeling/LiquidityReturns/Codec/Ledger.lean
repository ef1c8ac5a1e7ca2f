import LiquidityReturns.Decimal.Reading
import LiquidityReturns.Decimal.Text
import LiquidityReturns.Json.Record
import LiquidityReturns.Ledger.Action

namespace LiquidityReturns

/-!
# JSON form of the ledger's records

Numbers of coins are strings, so that no digit is lost.  Optional addresses,
transactions and heights are left out when absent, while missing pools and
legs are written as `null`; when reading, absent and `null` are the same.
-/

namespace Decimal

def toJson (number : Decimal) : Json :=
  .string number.text

/-- Read a number from a string, which may not have blanks around it. -/
def ofJson? (document : Json) : Option Decimal := do
  (readStrict (← document.string?)).toOption

end Decimal

namespace Nanoseconds

def toJson (date : Nanoseconds) : Json :=
  Json.ofInt64 date.count

def ofJson? (document : Json) : Option Nanoseconds :=
  document.int64?.map Nanoseconds.mk

end Nanoseconds

namespace Second

def toJson (second : Second) : Json :=
  Json.ofInt64 second.count

def ofJson? (document : Json) : Option Second :=
  document.int64?.map Second.mk

end Second

namespace Asset

def toJson (asset : Asset) : Json :=
  .string asset.name

def ofJson? (document : Json) : Option Asset :=
  document.string?.map Asset.mk

end Asset

namespace Address

def toJson (address : Address) : Json :=
  .string address.text

def ofJson? (document : Json) : Option Address :=
  document.string?.map Address.mk

end Address

namespace ActionKind

def toJson (kind : ActionKind) : Json :=
  .string kind.name

def ofJson? (document : Json) : Option ActionKind :=
  document.string?.map ofName

end ActionKind

namespace ActionStatus

def toJson (status : ActionStatus) : Json :=
  .string status.name

def ofJson? (document : Json) : Option ActionStatus :=
  document.string?.map ofName

end ActionStatus

namespace Coin

def fieldNames : List String :=
  ["asset", "amount"]

def toJson (coin : Coin) : Json :=
  .record [("asset", coin.asset.toJson), ("amount", coin.amount.toJson)]

def ofJson? (document : Json) : Option Coin := do
  let fields ← document.record? fieldNames
  let asset ← Json.required fields "asset" Asset.ofJson?
  let amount ← Json.required fields "amount" Decimal.ofJson?
  return { asset, amount }

end Coin

namespace Transfer

def fieldNames : List String :=
  ["address", "txID", "coins"]

def toJson (transfer : Transfer) : Json :=
  .record
    (Json.presentField "address" Address.toJson transfer.address ++
      Json.presentField "txID" Json.string transfer.txId ++
      [("coins", Json.ofList Coin.toJson transfer.coins)])

def ofJson? (document : Json) : Option Transfer := do
  let fields ← document.record? fieldNames
  let address ← Json.optional fields "address" Address.ofJson?
  let txId ← Json.optional fields "txID" Json.string?
  let coins ← Json.required fields "coins" (Json.list? Coin.ofJson?)
  return { address, txId, coins }

end Transfer

namespace Action

def fieldNames : List String :=
  ["type", "status", "date", "height", "pools", "in", "out"]

def toJson (action : Action) : Json :=
  .record
    ([("type", action.kind.toJson),
      ("status", action.status.toJson),
      ("date", action.date.toJson)] ++
      Json.presentField "height" Json.ofInt64 action.height ++
      [("pools", Json.ofOption (Json.ofList Asset.toJson) action.pools),
        ("in", Json.ofOption (Json.ofList Transfer.toJson) action.inputs),
        ("out", Json.ofOption (Json.ofList Transfer.toJson) action.outputs)])

def ofJson? (document : Json) : Option Action := do
  let fields ← document.record? fieldNames
  let kind ← Json.required fields "type" ActionKind.ofJson?
  let status ← Json.required fields "status" ActionStatus.ofJson?
  let date ← Json.required fields "date" Nanoseconds.ofJson?
  let height ← Json.optional fields "height" Json.int64?
  let pools ← Json.optional fields "pools" (Json.list? Asset.ofJson?)
  let inputs ← Json.optional fields "in" (Json.list? Transfer.ofJson?)
  let outputs ← Json.optional fields "out" (Json.list? Transfer.ofJson?)
  return { kind, status, date, height, pools, inputs, outputs }

end Action

end LiquidityReturns
