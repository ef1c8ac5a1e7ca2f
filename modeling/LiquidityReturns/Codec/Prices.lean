import LiquidityReturns.Codec.Ledger
import LiquidityReturns.Prices.Series

namespace LiquidityReturns

/-!
# JSON form of prices

A series is an object whose field names are the seconds, written as plain
integers without escapes, in ascending order.  When it is read, fields may come
in any order, and of several for one second the last one counts.
-/

namespace PriceSample

def fieldNames : List String :=
  ["at", "assetPrice", "assetPriceUSD"]

def toJson (sample : PriceSample) : Json :=
  .record
    [("at", sample.second.toJson),
      ("assetPrice", sample.assetPrice.toJson),
      ("assetPriceUSD", sample.assetPriceUsd.toJson)]

def ofJson? (document : Json) : Option PriceSample := do
  let fields ← document.record? fieldNames
  let second ← Json.required fields "at" Second.ofJson?
  let assetPrice ← Json.required fields "assetPrice" Decimal.ofJson?
  let assetPriceUsd ← Json.required fields "assetPriceUSD" Decimal.ofJson?
  return { second, assetPrice, assetPriceUsd }

end PriceSample

namespace PriceSeries

def keyOfSecond (second : Second) : String :=
  String.ofList (Text.signed second.count.toInt)

/--
The digits of a plain natural number: no zero stands in front of another digit.
-/
def plainMagnitude? : List Char → Option Nat
  | '0' :: _ :: _ =>
      none
  | characters =>
      Text.numeral? characters

/-- Read a field name as a second; a zero has no minus sign. -/
def secondOfKey? (key : String) : Option Second := do
  let integer ←
    match key.toList with
    | '-' :: rest =>
        ((plainMagnitude? rest).filter (0 < ·)).map fun magnitude =>
          -(magnitude : Int)
    | characters =>
        (plainMagnitude? characters).map fun magnitude => (magnitude : Int)
  if -(Nat.pow 2 63 : Int) ≤ integer ∧ integer < Nat.pow 2 63 then
    return ⟨Int64.ofInt integer⟩
  else
    none

/-- One entry of a series as a field. -/
def fieldOfEntry (entry : Second × Decimal) : String × Json :=
  (keyOfSecond entry.1, entry.2.toJson)

/-- Read one field of a series, whose name may not be written with escapes. -/
def entryOfField?
    (field : JsonString × Json) :
    Option (Second × Decimal) := do
  let second ← secondOfKey? (← field.1.plainText?)
  let price ← Decimal.ofJson? field.2
  return (second, price)

def toJson (series : PriceSeries) : Json :=
  .record (series.entries.map fieldOfEntry)

def ofJson? : Json → Option PriceSeries
  | .object fields =>
      (fields.mapM entryOfField?).map ofList
  | _ =>
      none

end PriceSeries

end LiquidityReturns
