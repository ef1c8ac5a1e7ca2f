import Mathlib
import LiquidityReturns.Codec.Pool
import LiquidityReturns.Codec.Summary
import LiquidityReturns.Proofs.Codec.Ledger
import LiquidityReturns.Proofs.Codec.Series

namespace LiquidityReturns

/-!
# Every record reads back

What is written for a record reads as that record, from its document and from
the text of its document, and what is read from any document at all is a
record that reads back.  Only actions have values that are excepted, those that
hold a reserved name as an open one.
-/

open List

namespace WholeAmount

theorem plain_toJson (amount : WholeAmount) : (toJson amount).Plain :=
  Json.plain_ofInt _

/-- A whole amount reads back over its full range. -/
theorem ofJson?_toJson (amount : WholeAmount) :
    ofJson? (toJson amount) = some amount := by
  have bounded : amount.val ≤ Nat.pow 2 128 - 1 :=
    Nat.le_sub_one_of_lt amount.isLt
  unfold ofJson? toJson
  rw [Json.nat?_ofNat bounded]
  simp [ofNat?]

end WholeAmount

namespace Position

/-- The fields of a position as they are written. -/
def fields (position : Position) : List (String × Json) :=
  [("pool", position.pool.toJson),
    ("liquidityUnits", WholeAmount.toJson position.liquidityUnits)]

theorem plain_toJson (position : Position) : position.toJson.Plain := by
  refine Json.plain_record fieldNames (List.Subset.refl _) ?_ ?_
  · simp [fieldNames, JsonString.Unescaped, Json.escaped]
  · simp [Asset.plain_toJson, WholeAmount.plain_toJson]

theorem ofJson?_toJson (position : Position) :
    ofJson? position.toJson = some position := by
  have record : position.toJson.record? fieldNames = some position.fields :=
    Json.record?_record (Sublist.refl _) (by decide)
  simp [ofJson?, record, fields, Json.required, Asset.ofJson?_toJson,
    WholeAmount.ofJson?_toJson]

end Position

namespace MemberPool

/-- The fields of a member's share of a pool as they are written. -/
def fields (member : MemberPool) : List (String × Json) :=
  [("position", member.position.toJson),
    ("runeAddress", Json.ofOption Address.toJson member.runeAddress),
    ("assetAddress", Json.ofOption Address.toJson member.assetAddress),
    ("runeAdded", member.runeAdded.toJson),
    ("assetAdded", member.assetAdded.toJson),
    ("runeWithdrawn", member.runeWithdrawn.toJson),
    ("assetWithdrawn", member.assetWithdrawn.toJson)]

theorem plain_toJson (member : MemberPool) : member.toJson.Plain := by
  have address (address : Option Address) :
      (Json.ofOption Address.toJson address).Plain :=
    Json.plain_ofOption fun address _ => address.plain_toJson
  refine Json.plain_record fieldNames (List.Subset.refl _) ?_ ?_
  · simp [fieldNames, JsonString.Unescaped, Json.escaped]
  · simp [Position.plain_toJson, address, Decimal.plain_toJson]

theorem ofJson?_toJson (member : MemberPool) :
    ofJson? member.toJson = some member := by
  have record : member.toJson.record? fieldNames = some member.fields :=
    Json.record?_record (Sublist.refl _) (by decide)
  have runeAddress :
      Json.optional member.fields "runeAddress" Address.ofJson? =
        some member.runeAddress :=
    Json.optional_of_lookup_ofOption Address.toJson rfl rfl
      fun address _ => address.ofJson?_toJson
  have assetAddress :
      Json.optional member.fields "assetAddress" Address.ofJson? =
        some member.assetAddress :=
    Json.optional_of_lookup_ofOption Address.toJson rfl rfl
      fun address _ => address.ofJson?_toJson
  unfold ofJson?
  rw [record]
  simp only [Option.bind_eq_bind, Option.bind_some, runeAddress,
    assetAddress]
  simp [fields, Json.required, Position.ofJson?_toJson,
    Decimal.ofJson?_toJson]

end MemberPool

namespace PoolState

/-- The fields of a state of a pool as they are written. -/
def fields (state : PoolState) : List (String × Json) :=
  [("liquidityUnits", WholeAmount.toJson state.liquidityUnits),
    ("runeDepth", WholeAmount.toJson state.runeDepth),
    ("assetDepth", WholeAmount.toJson state.assetDepth),
    ("assetPrice", state.assetPrice.toJson),
    ("assetPriceUSD", state.assetPriceUsd.toJson)]

theorem plain_toJson (state : PoolState) : state.toJson.Plain := by
  refine Json.plain_record fieldNames (List.Subset.refl _) ?_ ?_
  · simp [fieldNames, JsonString.Unescaped, Json.escaped]
  · simp [WholeAmount.plain_toJson, Decimal.plain_toJson]

theorem ofJson?_toJson (state : PoolState) :
    ofJson? state.toJson = some state := by
  have record : state.toJson.record? fieldNames = some state.fields :=
    Json.record?_record (Sublist.refl _) (by decide)
  simp [ofJson?, record, fields, Json.required,
    WholeAmount.ofJson?_toJson, Decimal.ofJson?_toJson]

end PoolState

namespace PriceSample

/-- The fields of a price sample as they are written. -/
def fields (sample : PriceSample) : List (String × Json) :=
  [("at", sample.second.toJson),
    ("assetPrice", sample.assetPrice.toJson),
    ("assetPriceUSD", sample.assetPriceUsd.toJson)]

theorem plain_toJson (sample : PriceSample) : sample.toJson.Plain := by
  refine Json.plain_record fieldNames (List.Subset.refl _) ?_ ?_
  · simp [fieldNames, JsonString.Unescaped, Json.escaped]
  · simp [Second.plain_toJson, Decimal.plain_toJson]

theorem ofJson?_toJson (sample : PriceSample) :
    ofJson? sample.toJson = some sample := by
  have record : sample.toJson.record? fieldNames = some sample.fields :=
    Json.record?_record (Sublist.refl _) (by decide)
  simp [ofJson?, record, fields, Json.required,
    Second.ofJson?_toJson, Decimal.ofJson?_toJson]

end PriceSample

namespace ReturnSummary

/-- The fields of a summary as they are written. -/
def fields (summary : ReturnSummary) : List (String × Json) :=
  summary.namedNumbers.map fun (name, number) => (name, number.toJson)

/--
A required number of a summary is the one that the summary has under its name.
-/
theorem required_fields (summary : ReturnSummary) (name : String) :
    Json.required summary.fields name Decimal.ofJson? =
      summary.namedNumbers.lookup name := by
  unfold fields Json.required
  induction summary.namedNumbers with
  | nil =>
      rfl
  | cons first rest inductionHypothesis =>
      rcases first with ⟨other, number⟩
      by_cases same : name = other
      · simp [same, Decimal.ofJson?_toJson]
      · simpa [same, List.lookup_cons, beq_eq_false_iff_ne.mpr same]
          using inductionHypothesis

theorem plain_toJson (summary : ReturnSummary) : summary.toJson.Plain := by
  refine Json.plain_record fieldNames (List.Subset.refl _) ?_ ?_
  · simp [fieldNames, namedNumbers, JsonString.Unescaped, Json.escaped]
  · intro field member
    obtain ⟨number, _, rfl⟩ := List.mem_map.mp member
    exact number.2.plain_toJson

theorem ofJson?_toJson (summary : ReturnSummary) :
    ofJson? summary.toJson = some summary := by
  have record : summary.toJson.record? fieldNames = some summary.fields :=
    Json.record?_record (Sublist.refl _) (by decide)
  unfold ofJson? readFlow? readValuation?
  rw [record]
  simp only [Option.bind_eq_bind, Option.bind_some, required_fields]
  rfl

end ReturnSummary

/--
The text of a record is the text of its document, a record that is admitted
reads back from that document, and any document that reads as a record at all
reads as one that is admitted.
-/
structure RoundTrips
    (toJson : α → Json)
    (ofJson? : Json → Option α)
    (admitted : α → Prop) :
    Prop where
  text_reads :
    ∀ record, Json.read? (toJson record).text = some (toJson record)
  reads_back :
    ∀ record, admitted record → ofJson? (toJson record) = some record
  reads_again :
    ∀ document record,
      ofJson? document = some record →
        admitted record ∧ ofJson? (toJson record) = some record

namespace RoundTrips

variable {toJson : α → Json} {ofJson? : Json → Option α}

/--
Records round trip if those that are admitted read back and those that are read
are admitted.
-/
theorem of_admitted
    {admitted : α → Prop}
    (plain : ∀ record, (toJson record).Plain)
    (back :
      ∀ record, admitted record → ofJson? (toJson record) = some record)
    (read :
      ∀ document record, ofJson? document = some record → admitted record) :
    RoundTrips toJson ofJson? admitted where
  text_reads record := (plain record).read?_text
  reads_back := back
  reads_again document record accepted :=
    have known := read document record accepted
    ⟨known, back record known⟩

/-- Records round trip without exception if all of them read back. -/
theorem of_forall
    (plain : ∀ record, (toJson record).Plain)
    (back : ∀ record, ofJson? (toJson record) = some record) :
    RoundTrips toJson ofJson? fun _ => True :=
  of_admitted plain (fun record _ => back record) fun _ _ _ => trivial

end RoundTrips

/--
Every record reads back from its document and its text.  The only exception
are actions whose kind or status is an open one with a reserved name, and no
document reads as such an action.
-/
theorem records_round_trip :
    RoundTrips Coin.toJson Coin.ofJson? (fun _ => True) ∧
      RoundTrips Transfer.toJson Transfer.ofJson? (fun _ => True) ∧
      RoundTrips Action.toJson Action.ofJson? Action.WellNamed ∧
      RoundTrips Position.toJson Position.ofJson? (fun _ => True) ∧
      RoundTrips MemberPool.toJson MemberPool.ofJson? (fun _ => True) ∧
      RoundTrips PoolState.toJson PoolState.ofJson? (fun _ => True) ∧
      RoundTrips PriceSample.toJson PriceSample.ofJson? (fun _ => True) ∧
      RoundTrips PriceSeries.toJson PriceSeries.ofJson? (fun _ => True) ∧
      RoundTrips ReturnSummary.toJson ReturnSummary.ofJson?
        (fun _ => True) :=
  ⟨.of_forall Coin.plain_toJson Coin.ofJson?_toJson,
    .of_forall Transfer.plain_toJson Transfer.ofJson?_toJson,
    .of_admitted Action.plain_toJson (fun _ => Action.ofJson?_toJson)
      fun _ _ => Action.wellNamed_of_ofJson?,
    .of_forall Position.plain_toJson Position.ofJson?_toJson,
    .of_forall MemberPool.plain_toJson MemberPool.ofJson?_toJson,
    .of_forall PoolState.plain_toJson PoolState.ofJson?_toJson,
    .of_forall PriceSample.plain_toJson PriceSample.ofJson?_toJson,
    .of_forall PriceSeries.plain_toJson PriceSeries.ofJson?_toJson,
    .of_forall ReturnSummary.plain_toJson ReturnSummary.ofJson?_toJson⟩

namespace Sample

/--
An action of an open kind in the first nanosecond of all, with one leg missing
and one empty.
-/
def donation : Action where
  kind := .other "donate \"all\""
  status := .pending
  date := ⟨Int64.minValue⟩
  height := none
  pools := some []
  inputs := none
  outputs := some [{
    address := none
    txId := some ""
    coins := [{ asset := ⟨"A/B"⟩, amount := Decimal.Sample.outermost }]
  }]

end Sample

/-- An action with a quoted name and missing parts reads back from its text. -/
theorem records_round_trip_sample :
    Sample.donation.WellNamed ∧
      (Json.read? Sample.donation.toJson.text).bind Action.ofJson? =
        some Sample.donation := by
  have named : Sample.donation.WellNamed := by
    decide
  have actions := records_round_trip.2.2.1
  refine ⟨named, ?_⟩
  rw [actions.text_reads, Option.bind_some,
    actions.reads_back _ named]

end LiquidityReturns
