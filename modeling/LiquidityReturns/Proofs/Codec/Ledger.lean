import Mathlib
import LiquidityReturns.Proofs.Decimal.CanonicalText
import LiquidityReturns.Proofs.Json.Documents
import LiquidityReturns.Proofs.Json.Records

namespace LiquidityReturns

/-!
# Actions read back from their JSON form

A coin and a transfer always read back.  An action does unless its kind or
its status is an open one with a name of its own kind or status, and nothing
that is read is of that sort.
-/

open List

theorem Decimal.plain_toJson (number : Decimal) : number.toJson.Plain :=
  .string _

namespace Nanoseconds

theorem plain_toJson (date : Nanoseconds) : date.toJson.Plain :=
  Json.plain_ofInt _

theorem ofJson?_toJson (date : Nanoseconds) :
    ofJson? date.toJson = some date := by
  rw [ofJson?, toJson, Json.int64?_ofInt64]
  rfl

end Nanoseconds

namespace Second

theorem plain_toJson (second : Second) : second.toJson.Plain :=
  Json.plain_ofInt _

theorem ofJson?_toJson (second : Second) :
    ofJson? second.toJson = some second := by
  rw [ofJson?, toJson, Json.int64?_ofInt64]
  rfl

end Second

namespace Asset

theorem plain_toJson (asset : Asset) : asset.toJson.Plain :=
  .string _

theorem ofJson?_toJson (asset : Asset) : ofJson? asset.toJson = some asset :=
  rfl

end Asset

namespace Address

theorem plain_toJson (address : Address) : address.toJson.Plain :=
  .string _

theorem ofJson?_toJson (address : Address) :
    ofJson? address.toJson = some address :=
  rfl

end Address

namespace ActionKind

/-- The names that stand for kinds of their own. -/
def reservedNames : List String :=
  ["addLiquidity", "withdraw"]

/-- No open kind holds a reserved name. -/
def WellNamed (kind : ActionKind) : Prop :=
  ∀ name, kind = .other name → name ∉ reservedNames

instance (kind : ActionKind) : Decidable kind.WellNamed :=
  match kind with
  | .addLiquidity =>
      .isTrue (fun _ same => by cases same)
  | .withdraw =>
      .isTrue (fun _ same => by cases same)
  | .other name =>
      decidable_of_iff (name ∉ reservedNames) (by simp [WellNamed])

/-- A well-named kind is the kind of its name. -/
theorem ofName_name
    {kind : ActionKind}
    (named : kind.WellNamed) :
    ofName kind.name = kind := by
  cases kind with
  | addLiquidity =>
      rfl
  | withdraw =>
      rfl
  | other name =>
      have free := named name rfl
      simp only [reservedNames, List.mem_cons, List.not_mem_nil, or_false,
        not_or] at free
      simp [ofName, ActionKind.name, free]

/-- The kind of a name is well named. -/
theorem wellNamed_ofName (name : String) : (ofName name).WellNamed := by
  intro other same reserved
  have sameName := name_ofName name
  rw [same] at sameName
  subst sameName
  simp only [reservedNames, List.mem_cons, List.not_mem_nil, or_false]
    at reserved
  rcases reserved with add | withdraw
  · simp [ofName, add, ActionKind.name] at same
  · simp [ofName, withdraw, ActionKind.name] at same

theorem ofJson?_toJson
    {kind : ActionKind}
    (named : kind.WellNamed) :
    ofJson? kind.toJson = some kind :=
  congrArg some (ofName_name named)

theorem wellNamed_of_ofJson?
    {document : Json}
    {kind : ActionKind}
    (accepted : ofJson? document = some kind) :
    kind.WellNamed := by
  obtain ⟨name, _, rfl⟩ := Option.map_eq_some_iff.mp accepted
  exact wellNamed_ofName name

end ActionKind

namespace ActionStatus

/-- The names that stand for statuses of their own. -/
def reservedNames : List String :=
  ["success", "pending"]

/-- No open status holds a reserved name. -/
def WellNamed (status : ActionStatus) : Prop :=
  ∀ name, status = .other name → name ∉ reservedNames

instance (status : ActionStatus) : Decidable status.WellNamed :=
  match status with
  | .success =>
      .isTrue (fun _ same => by cases same)
  | .pending =>
      .isTrue (fun _ same => by cases same)
  | .other name =>
      decidable_of_iff (name ∉ reservedNames) (by simp [WellNamed])

/-- A well-named status is the status of its name. -/
theorem ofName_name
    {status : ActionStatus}
    (named : status.WellNamed) :
    ofName status.name = status := by
  cases status with
  | success =>
      rfl
  | pending =>
      rfl
  | other name =>
      have free := named name rfl
      simp only [reservedNames, List.mem_cons, List.not_mem_nil, or_false,
        not_or] at free
      simp [ofName, ActionStatus.name, free]

/-- The status of a name is well named. -/
theorem wellNamed_ofName (name : String) : (ofName name).WellNamed := by
  intro other same reserved
  have sameName := name_ofName name
  rw [same] at sameName
  subst sameName
  simp only [reservedNames, List.mem_cons, List.not_mem_nil, or_false]
    at reserved
  rcases reserved with success | pending
  · simp [ofName, success, ActionStatus.name] at same
  · simp [ofName, pending, ActionStatus.name] at same

theorem ofJson?_toJson
    {status : ActionStatus}
    (named : status.WellNamed) :
    ofJson? status.toJson = some status :=
  congrArg some (ofName_name named)

theorem wellNamed_of_ofJson?
    {document : Json}
    {status : ActionStatus}
    (accepted : ofJson? document = some status) :
    status.WellNamed := by
  obtain ⟨name, _, rfl⟩ := Option.map_eq_some_iff.mp accepted
  exact wellNamed_ofName name

end ActionStatus

namespace Coin

/-- The fields of a coin as they are written. -/
def fields (coin : Coin) : List (String × Json) :=
  [("asset", coin.asset.toJson), ("amount", coin.amount.toJson)]

theorem names_fields (coin : Coin) :
    coin.fields.map Prod.fst <+ fieldNames :=
  Sublist.refl _

theorem nodup_fieldNames : fieldNames.Nodup := by
  decide

theorem plain_toJson (coin : Coin) : coin.toJson.Plain := by
  refine Json.plain_record fieldNames coin.names_fields.subset ?_ ?_
  · simp [fieldNames, JsonString.Unescaped, Json.escaped]
  · simp [Asset.plain_toJson, Decimal.plain_toJson]

theorem ofJson?_toJson (coin : Coin) : ofJson? coin.toJson = some coin := by
  have record : coin.toJson.record? fieldNames = some coin.fields :=
    Json.record?_record coin.names_fields nodup_fieldNames
  unfold ofJson?
  rw [record]
  simp [fields, Json.required, Asset.ofJson?_toJson, Decimal.ofJson?_toJson]

end Coin

namespace Transfer

/-- The fields of a transfer as they are written. -/
def fields (transfer : Transfer) : List (String × Json) :=
  Json.presentField "address" Address.toJson transfer.address ++
    Json.presentField "txID" Json.string transfer.txId ++
    [("coins", Json.ofList Coin.toJson transfer.coins)]

theorem names_fields (transfer : Transfer) :
    transfer.fields.map Prod.fst <+ fieldNames := by
  simp only [fields, List.map_append]
  exact ((Json.names_presentField "address" _).append
    (Json.names_presentField "txID" _)).append (Sublist.refl ["coins"])

theorem nodup_fieldNames : fieldNames.Nodup := by
  decide

theorem plain_toJson (transfer : Transfer) : transfer.toJson.Plain := by
  refine Json.plain_record fieldNames transfer.names_fields.subset ?_ ?_
  · simp [fieldNames, JsonString.Unescaped, Json.escaped]
  · simp only [List.forall_mem_append, List.forall_mem_singleton]
    refine ⟨⟨?_, ?_⟩, ?_⟩
    · exact Json.plain_presentField fun address _ => address.plain_toJson
    · exact Json.plain_presentField fun txId _ => .string txId
    · exact Json.plain_ofList fun coin _ => coin.plain_toJson

theorem ofJson?_toJson (transfer : Transfer) :
    ofJson? transfer.toJson = some transfer := by
  have record : transfer.toJson.record? fieldNames = some transfer.fields :=
    Json.record?_record transfer.names_fields nodup_fieldNames
  have address :
      Json.optional transfer.fields "address" Address.ofJson? =
        some transfer.address :=
    Json.optional_of_lookup_map Address.toJson
      (by simp [fields, List.lookup_append]) rfl
      fun address _ => address.ofJson?_toJson
  have txId :
      Json.optional transfer.fields "txID" Json.string? =
        some transfer.txId :=
    Json.optional_of_lookup_map Json.string
      (by simp [fields, List.lookup_append]) rfl fun _ _ => rfl
  have coins :
      Json.required transfer.fields "coins" (Json.list? Coin.ofJson?) =
        some transfer.coins :=
    (Json.required_of_lookup
      (by simp [fields, List.lookup_append])).trans
        (Json.list?_ofList fun coin _ => coin.ofJson?_toJson)
  simp [ofJson?, record, address, txId, coins]

end Transfer

namespace Action

/-- The fields of an action as they are written. -/
def fields (action : Action) : List (String × Json) :=
  [("type", action.kind.toJson),
    ("status", action.status.toJson),
    ("date", action.date.toJson)] ++
    Json.presentField "height" Json.ofInt64 action.height ++
    [("pools", Json.ofOption (Json.ofList Asset.toJson) action.pools),
      ("in", Json.ofOption (Json.ofList Transfer.toJson) action.inputs),
      ("out", Json.ofOption (Json.ofList Transfer.toJson) action.outputs)]

theorem names_fields (action : Action) :
    action.fields.map Prod.fst <+ fieldNames := by
  simp only [fields, List.map_append]
  exact ((Sublist.refl ["type", "status", "date"]).append
    (Json.names_presentField "height" _)).append
      (Sublist.refl ["pools", "in", "out"])

theorem nodup_fieldNames : fieldNames.Nodup := by
  decide

theorem plain_toJson (action : Action) : action.toJson.Plain := by
  refine Json.plain_record fieldNames action.names_fields.subset ?_ ?_
  · simp [fieldNames, JsonString.Unescaped, Json.escaped]
  · have legs (transfers : Option (List Transfer)) :
        (Json.ofOption (Json.ofList Transfer.toJson) transfers).Plain :=
      Json.plain_ofOption fun _ _ =>
        Json.plain_ofList fun transfer _ => transfer.plain_toJson
    simp only [List.forall_mem_append, List.forall_mem_cons,
      List.not_mem_nil, false_implies, implies_true, and_true]
    refine ⟨⟨⟨.string _, .string _, action.date.plain_toJson⟩, ?_⟩,
      ?_, legs _, legs _⟩
    · exact Json.plain_presentField fun height _ => Json.plain_ofInt _
    · exact Json.plain_ofOption fun _ _ =>
        Json.plain_ofList fun asset _ => asset.plain_toJson

/-- No open kind and no open status of an action holds a reserved name. -/
def WellNamed (action : Action) : Prop :=
  action.kind.WellNamed ∧ action.status.WellNamed

instance (action : Action) : Decidable action.WellNamed :=
  inferInstanceAs (Decidable (_ ∧ _))

/-- A well-named action reads back. -/
theorem ofJson?_toJson
    {action : Action}
    (named : action.WellNamed) :
    ofJson? action.toJson = some action := by
  have record : action.toJson.record? fieldNames = some action.fields :=
    Json.record?_record action.names_fields nodup_fieldNames
  have kind :
      Json.required action.fields "type" ActionKind.ofJson? =
        some action.kind :=
    ActionKind.ofJson?_toJson named.1
  have status :
      Json.required action.fields "status" ActionStatus.ofJson? =
        some action.status :=
    ActionStatus.ofJson?_toJson named.2
  have date :
      Json.required action.fields "date" Nanoseconds.ofJson? =
        some action.date :=
    action.date.ofJson?_toJson
  have height :
      Json.optional action.fields "height" Json.int64? =
        some action.height :=
    Json.optional_of_lookup_map Json.ofInt64
      (by simp [fields, List.lookup_append]) rfl
      fun height _ => Json.int64?_ofInt64 height
  have pools :
      Json.optional action.fields "pools" (Json.list? Asset.ofJson?) =
        some action.pools :=
    Json.optional_of_lookup_ofOption (Json.ofList Asset.toJson)
      (by simp [fields, List.lookup_append]) rfl
      fun _ _ => Json.list?_ofList fun asset _ => asset.ofJson?_toJson
  have inputs :
      Json.optional action.fields "in" (Json.list? Transfer.ofJson?) =
        some action.inputs :=
    Json.optional_of_lookup_ofOption (Json.ofList Transfer.toJson)
      (by simp [fields, List.lookup_append]) rfl
      fun _ _ => Json.list?_ofList fun transfer _ => transfer.ofJson?_toJson
  have outputs :
      Json.optional action.fields "out" (Json.list? Transfer.ofJson?) =
        some action.outputs :=
    Json.optional_of_lookup_ofOption (Json.ofList Transfer.toJson)
      (by simp [fields, List.lookup_append]) rfl
      fun _ _ => Json.list?_ofList fun transfer _ => transfer.ofJson?_toJson
  simp [ofJson?, record, kind, status, date, height, pools, inputs, outputs]

/-- Every action that is read is well named. -/
theorem wellNamed_of_ofJson?
    {document : Json}
    {action : Action}
    (accepted : ofJson? document = some action) :
    action.WellNamed := by
  simp only [ofJson?, Json.required, Option.bind_eq_bind,
    Option.bind_eq_some_iff] at accepted
  obtain ⟨fields, _, kind, ⟨_, _, kindRead⟩,
    status, ⟨_, _, statusRead⟩, date, _, height, _, pools, _,
    inputs, _, outputs, _, built⟩ := accepted
  cases built
  exact ⟨ActionKind.wellNamed_of_ofJson? kindRead,
    ActionStatus.wellNamed_of_ofJson? statusRead⟩

end Action

end LiquidityReturns
