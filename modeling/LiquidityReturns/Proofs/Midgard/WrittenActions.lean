import Mathlib
import LiquidityReturns.Proofs.Codec.Ledger
import LiquidityReturns.Proofs.Midgard.FieldLaws

namespace LiquidityReturns

/-!
# Midgard's reader on written actions

Midgard's records have numbers as strings or as numbers and may have blanks
around them.  On the JSON form that actions are written in, its reader and the
reader of that form have the same result, field by field.
-/

namespace JsonNumber

/-- A machine integer is taken to have the text of its digits. -/
theorem valueText?_ofInt
    {integer : Int}
    (lower : -(2 : Int) ^ 63 ≤ integer)
    (upper : integer < (2 : Int) ^ 64) :
    (ofInt integer).valueText? =
      some (String.ofList (Text.signed integer)) := by
  have machine : (ofInt integer).isMachineInteger = true := by
    unfold isMachineInteger
    rw [plainInteger?_ofInt]
    by_cases negative : integer < 0
    · have bounds : integer ≠ 0 ∧ -(Nat.pow 2 63 : Int) ≤ integer := by
        norm_num
        omega
      simp only [ofInt, negative, decide_true, if_true]
      exact decide_eq_true bounds
    · have bound : integer < (Nat.pow 2 64 : Int) := by
        norm_num
        omega
      simp only [ofInt, negative, decide_false, Bool.false_eq_true,
        if_false]
      exact decide_eq_true bound
  unfold valueText? Text.signed
  rw [machine]
  by_cases negative : integer < 0 <;> simp [ofInt, negative]

end JsonNumber

namespace Midgard

open Text

variable {fields : List (String × Json)} {name : String}

theorem hasText_ofInt64 (integer : Int64) :
    HasText (Json.ofInt64 integer)
      (String.ofList (signed integer.toInt)) := by
  have lower := integer.le_toInt
  have upper := integer.toInt_lt
  exact .number (JsonNumber.valueText?_ofInt (by omega) (by omega))

theorem hasText_ofNat
    {natural : Nat}
    (small : natural < 2 ^ 64) :
    HasText (Json.ofNat natural) (String.ofList (digits natural)) := by
  have below : (natural : Int) < 2 ^ 64 := by
    exact_mod_cast small
  have text := JsonNumber.valueText?_ofInt (by omega) below
  rw [signed, if_neg (by omega), Int.natAbs_natCast] at text
  exact .number text

/-- A written record has the fields that it is written with. -/
theorem hasField_of_lookup
    {described : Json → Prop}
    {document : Json}
    (distinct : (fields.map Prod.fst).Nodup)
    (found : fields.lookup name = some document)
    (holds : described document) :
    HasField (.record fields) name described :=
  ⟨document, (Json.field?_record distinct name).trans found, holds⟩

theorem textField_of_lookup
    {text : String}
    (distinct : (fields.map Prod.fst).Nodup)
    (found : fields.lookup name = some (.string text)) :
    textField (.record fields) name = .ok text := by
  rw [textField_eq_ok_iff, Json.field?_record distinct, found]

theorem decimalField_of_lookup
    {number : Decimal}
    (distinct : (fields.map Prod.fst).Nodup)
    (found : fields.lookup name = some number.toJson) :
    decimalField (.record fields) name = .ok number := by
  rw [decimalField_eq_ok_iff]
  exact hasField_of_lookup distinct found
    ⟨number.text, .string _, number.read_text⟩

theorem integerField_of_lookup
    {integer : Int64}
    (distinct : (fields.map Prod.fst).Nodup)
    (found : fields.lookup name = some (Json.ofInt64 integer)) :
    integerField (.record fields) name = .ok integer := by
  rw [integerField_eq_ok_iff]
  refine hasField_of_lookup distinct found
    ⟨_, hasText_ofInt64 integer, ?_⟩
  rw [trim_signed, String.toList_ofList]
  exact integerLiteral_signed integer.toInt

/-- A count of 64 bits reads back. -/
theorem readCount_of_lookup
    {count : Nat}
    (distinct : (fields.map Prod.fst).Nodup)
    (found : fields.lookup "count" = some (Json.ofNat count))
    (small : count < 2 ^ 64) :
    readCount (.record fields) = .ok count := by
  rw [readCount_eq_ok_iff]
  refine ⟨small, hasField_of_lookup distinct found
    ⟨_, hasText_ofNat small, ?_⟩⟩
  rw [trim_digits, String.toList_ofList]
  exact .unsigned (digitsOf_digits count)

variable
  {α : Type}
  {toJson : α → Json}
  {readItem : Json → Except RecordError α}

/-- The documents of some values read back one by one. -/
theorem mapM_toJson
    {values : List α}
    (reads : ∀ value ∈ values, readItem (toJson value) = .ok value) :
    (values.map toJson).mapM readItem = .ok values := by
  have all :
      values.mapM (readItem ∘ toJson) = .ok (values.map id) :=
    Outcome.mapM_eq_ok reads
  rwa [List.map_id, ← List.mapM_map] at all

theorem arrayField_of_lookup
    {values : List α}
    (distinct : (fields.map Prod.fst).Nodup)
    (found : fields.lookup name = some (Json.ofList toJson values)) :
    arrayField (.record fields) name = .ok (values.map toJson) := by
  rw [arrayField_eq_ok_iff, Json.field?_record distinct, found]
  rfl

/-- A list that is `null` when it is missing reads back. -/
theorem optionalArrayField_of_lookup
    (toJson : α → Json)
    {value : Option (List α)}
    (distinct : (fields.map Prod.fst).Nodup)
    (found :
      fields.lookup name = some (Json.ofOption (Json.ofList toJson) value))
    (reads :
      ∀ items ∈ value,
        ∀ item ∈ items, readItem (toJson item) = .ok item) :
    optionalArrayField (.record fields) name readItem = .ok value := by
  rw [optionalArrayField_eq_ok_iff]
  cases value with
  | none =>
      refine .missing fun document present => ?_
      rw [Json.field?_record distinct, found] at present
      exact (Option.some.inj present).symm
  | some items =>
      refine .present (hasField_of_lookup distinct found
        ⟨items.map toJson, rfl, ?_⟩)
      rw [List.forall₂_map_left_iff, List.forall₂_same]
      exact reads items rfl

/-- A text that is left out when it is missing reads back. -/
theorem optionalText?_of_lookup
    {value : Option String}
    (distinct : (fields.map Prod.fst).Nodup)
    (found : fields.lookup name = value.map Json.string) :
    optionalText? (.record fields) name = value := by
  unfold optionalText?
  rw [Json.field?_record distinct, found]
  cases value <;> rfl

/-- A height reads back. -/
theorem height?_of_lookup
    {height : Option Int64}
    (distinct : (fields.map Prod.fst).Nodup)
    (found : fields.lookup "height" = height.map Json.ofInt64) :
    height? (.record fields) = height := by
  cases height with
  | none =>
      rw [height?, Json.field?_record distinct, found]
      rfl
  | some integer =>
      rw [height?_eq_some_iff]
      refine hasField_of_lookup distinct found
        ⟨_, hasText_ofInt64 integer, ?_⟩
      rw [String.toList_ofList]
      exact integerLiteral_signed integer.toInt

end Midgard

/-- An address that is not empty and has no blanks around it. -/
def Address.Tidy (address : Address) : Prop :=
  address.text ≠ "" ∧ Text.Unpadded address.text

instance (address : Address) : Decidable address.Tidy :=
  inferInstanceAs (Decidable (_ ∧ _))

namespace Transfer

/-- The address of a transfer is tidy, if there is one. -/
def TidyAddress (transfer : Transfer) : Prop :=
  ∀ address ∈ transfer.address, address.Tidy

instance (transfer : Transfer) : Decidable transfer.TidyAddress :=
  inferInstanceAs (Decidable (∀ address ∈ transfer.address, address.Tidy))

end Transfer

namespace Action

/-- The transfers of both legs, those that are present. -/
def transfers (action : Action) : List Transfer :=
  action.inputs.getD [] ++ action.outputs.getD []

/-- The addresses of all transfers of an action are tidy. -/
def TidyAddresses (action : Action) : Prop :=
  ∀ transfer ∈ action.transfers, transfer.TidyAddress

instance (action : Action) : Decidable action.TidyAddresses :=
  inferInstanceAs
    (Decidable (∀ transfer ∈ action.transfers, transfer.TidyAddress))

theorem tidyAddress_of_mem_inputs
    {action : Action}
    (tidy : action.TidyAddresses)
    {leg : List Transfer}
    (present : leg ∈ action.inputs)
    {transfer : Transfer}
    (member : transfer ∈ leg) :
    transfer.TidyAddress := by
  refine tidy transfer (List.mem_append_left _ ?_)
  rwa [Option.mem_def.mp present]

theorem tidyAddress_of_mem_outputs
    {action : Action}
    (tidy : action.TidyAddresses)
    {leg : List Transfer}
    (present : leg ∈ action.outputs)
    {transfer : Transfer}
    (member : transfer ∈ leg) :
    transfer.TidyAddress := by
  refine tidy transfer (List.mem_append_right _ ?_)
  rwa [Option.mem_def.mp present]

end Action

namespace Midgard

open Text

/-- Trimming leaves a tidy address alone, and it is not dropped as empty. -/
theorem optionalAddress?_of_lookup
    {fields : List (String × Json)}
    {name : String}
    {address : Option Address}
    (distinct : (fields.map Prod.fst).Nodup)
    (found : fields.lookup name = address.map Address.toJson)
    (tidy : ∀ present ∈ address, present.Tidy) :
    optionalAddress? (.record fields) name = address := by
  have text : optionalText? (.record fields) name =
      address.map Address.text := by
    refine optionalText?_of_lookup distinct ?_
    rw [found, Option.map_map]
    rfl
  unfold optionalAddress?
  rw [text]
  cases address with
  | none =>
      rfl
  | some present =>
      obtain ⟨notEmpty, unpadded⟩ := tidy present rfl
      simp [trim_of_unpadded unpadded, notEmpty]

theorem readCoin_toJson (coin : Coin) : readCoin coin.toJson = .ok coin := by
  have distinct := coin.names_fields.nodup Coin.nodup_fieldNames
  have asset : textField coin.toJson "asset" = .ok coin.asset.name :=
    textField_of_lookup distinct rfl
  have amount : decimalField coin.toJson "amount" = .ok coin.amount :=
    decimalField_of_lookup distinct rfl
  unfold readCoin
  rw [asset, amount]
  rfl

theorem readTransfer_toJson
    {transfer : Transfer}
    (tidy : transfer.TidyAddress) :
    readTransfer transfer.toJson = .ok transfer := by
  have distinct := transfer.names_fields.nodup Transfer.nodup_fieldNames
  have coins :
      arrayField transfer.toJson "coins" =
        .ok (transfer.coins.map Coin.toJson) :=
    arrayField_of_lookup distinct
      (by simp [List.lookup_append])
  have address :
      optionalAddress? transfer.toJson "address" = transfer.address :=
    optionalAddress?_of_lookup distinct
      (by simp [List.lookup_append]) tidy
  have txId : optionalText? transfer.toJson "txID" = transfer.txId :=
    optionalText?_of_lookup distinct
      (by simp [List.lookup_append])
  unfold readTransfer
  rw [coins, Outcome.ok_bind, mapM_toJson fun coin _ => readCoin_toJson coin,
    Outcome.ok_bind, address, txId]
  rfl

/-- Midgard's reader and the reader of written actions have the same result. -/
theorem readAction_toJson
    {action : Action}
    (named : action.WellNamed)
    (tidy : action.TidyAddresses) :
    readAction action.toJson = .ok action := by
  have distinct := action.names_fields.nodup Action.nodup_fieldNames
  have kind : textField action.toJson "type" = .ok action.kind.name :=
    textField_of_lookup distinct rfl
  have status : textField action.toJson "status" = .ok action.status.name :=
    textField_of_lookup distinct rfl
  have date : integerField action.toJson "date" = .ok action.date.count :=
    integerField_of_lookup distinct rfl
  have pools :
      optionalArrayField action.toJson "pools" readPoolName =
        .ok action.pools :=
    optionalArrayField_of_lookup Asset.toJson distinct
      (by simp [List.lookup_append]) fun _ _ _ _ => rfl
  have inputs :
      optionalArrayField action.toJson "in" readTransfer =
        .ok action.inputs :=
    optionalArrayField_of_lookup Transfer.toJson distinct
      (by simp [List.lookup_append])
      fun _ present _ member => readTransfer_toJson
        (Action.tidyAddress_of_mem_inputs tidy present member)
  have outputs :
      optionalArrayField action.toJson "out" readTransfer =
        .ok action.outputs :=
    optionalArrayField_of_lookup Transfer.toJson distinct
      (by simp [List.lookup_append])
      fun _ present _ member => readTransfer_toJson
        (Action.tidyAddress_of_mem_outputs tidy present member)
  have height : height? action.toJson = action.height :=
    height?_of_lookup distinct
      (by simp [List.lookup_append])
  unfold readAction
  simp only [kind, status, date, pools, inputs, outputs, height,
    Outcome.ok_bind, ActionKind.ofName_name named.1,
    ActionStatus.ofName_name named.2]
  rfl

/--
Midgard's reader gives back a page of written actions with its count, and on
each of them it agrees with the reader of written actions.
-/
theorem readActionsPage_of_written
    {actions : List Action}
    (named : ∀ action ∈ actions, action.WellNamed)
    (tidy : ∀ action ∈ actions, action.TidyAddresses)
    {count : Nat}
    (small : count < 2 ^ 64) :
    readActionsPage
        (.record [("actions", Json.ofList Action.toJson actions),
          ("count", Json.ofNat count)]) =
      .ok { actions, count } ∧
    ∀ action ∈ actions,
      readAction action.toJson = .ok action ∧
        Action.ofJson? action.toJson = some action := by
  have each : ∀ action ∈ actions, readAction action.toJson = .ok action :=
    fun action member =>
      readAction_toJson (named action member) (tidy action member)
  constructor
  · let fields : List (String × Json) :=
      [("actions", Json.ofList Action.toJson actions),
        ("count", Json.ofNat count)]
    have distinct : (fields.map Prod.fst).Nodup := by
      simp [fields]
    have listed :
        arrayField (.record fields) "actions" =
          .ok (actions.map Action.toJson) :=
      arrayField_of_lookup distinct rfl
    have counted : readCount (.record fields) = .ok count :=
      readCount_of_lookup distinct rfl small
    unfold readActionsPage
    rw [listed, Outcome.ok_bind, mapM_toJson each, Outcome.ok_bind, counted]
    rfl
  · intro action member
    exact ⟨each action member, Action.ofJson?_toJson (named action member)⟩

namespace Sample

/-- An action before the epoch, of an open kind, with one leg missing. -/
def refund : Action where
  kind := .other "refund"
  status := .success
  date := ⟨-1⟩
  height := some 7
  pools := none
  inputs := none
  outputs := some [{
    address := some ⟨"thor1 member"⟩
    txId := some ""
    coins := [{ asset := .rune, amount := .hundred }]
  }]

/-- An addition at the last moment, in two transfers, with an empty leg. -/
def lastAddition : Action where
  kind := .addLiquidity
  status := .pending
  date := ⟨Int64.maxValue⟩
  height := none
  pools := some [⟨"BTC.BTC"⟩, ⟨"ETH.ETH"⟩]
  inputs := some [
    {
      address := none
      txId := none
      coins := []
    },
    {
      address := some ⟨"bc1member"⟩
      txId := some "A1"
      coins := [
        { asset := ⟨"BTC.BTC"⟩, amount := .one },
        { asset := .rune, amount := .hundred }]
    }]
  outputs := some []

/-- Two actions that differ in every part, the later one first. -/
def writtenActions : List Action :=
  [lastAddition, refund]

end Sample

/--
A page of two actions, with missing parts and an address with a blank inside,
reads back in order.
-/
theorem readActionsPage_of_written_sample :
    (∀ action ∈ Sample.writtenActions, action.WellNamed) ∧
      (∀ action ∈ Sample.writtenActions, action.TidyAddresses) ∧
      readActionsPage
          (.record
            [("actions", Json.ofList Action.toJson Sample.writtenActions),
              ("count", Json.ofNat (2 ^ 64 - 1))]) =
        .ok {
          actions := [Sample.lastAddition, Sample.refund]
          count := 2 ^ 64 - 1
        } ∧
      Sample.lastAddition ≠ Sample.refund := by
  have named : ∀ action ∈ Sample.writtenActions, action.WellNamed := by
    decide
  have tidy : ∀ action ∈ Sample.writtenActions, action.TidyAddresses := by
    decide +kernel
  exact ⟨named, tidy,
    (readActionsPage_of_written named tidy (by decide)).1, by decide⟩

end Midgard

end LiquidityReturns
