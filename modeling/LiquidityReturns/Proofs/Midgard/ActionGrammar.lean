import Mathlib
import LiquidityReturns.Proofs.Midgard.FieldLaws

namespace LiquidityReturns.Midgard

/-!
# The grammar of pages of actions

Which documents are pages of actions is stated twice: by what they must look
like, and by the page that they denote.  The reader of pages succeeds exactly
on the first and gives exactly the second, so nothing that it accepts is
dropped, reordered or replaced by a default.  Each record has one law per
statement, and the law of a record rests on those of its fields alone.
-/

open Text

/-- A field that may be missing, of a value as described otherwise. -/
def MayHaveField
    (record : Json)
    (name : String)
    (described : Json → Prop) :
    Prop :=
  LacksField record name ∨ HasField record name described

def IsString (value : Json) : Prop :=
  ∃ text, value = .string text

/-- A string or a number whose text is a decimal number. -/
def IsAmount (value : Json) : Prop :=
  ∃ text, HasText value text ∧ ∃ number, Decimal.read text = .ok number

/-- A string or a number whose text is an integer of 64 bits, blanks aside. -/
def IsDate (value : Json) : Prop :=
  ∃ text, HasText value text ∧
    ∃ integer, IntegerLiteral (trim text).toList integer ∧
      -(2 : Int) ^ 63 ≤ integer ∧ integer < (2 : Int) ^ 63

/--
A string or a number whose text is a natural number of 64 bits, blanks aside.
-/
def IsCount (value : Json) : Prop :=
  ∃ text, HasText value text ∧
    ∃ number,
      NaturalLiteral (trim text).toList number ∧ number ≤ 2 ^ 64 - 1

/-! ## What records must look like -/

@[mk_iff]
structure AcceptableCoin (record : Json) : Prop where
  asset : HasField record "asset" IsString
  amount : HasField record "amount" IsAmount

@[mk_iff]
structure AcceptableTransfer (record : Json) : Prop where
  coins : HasField record "coins" (IsArrayOf AcceptableCoin)

@[mk_iff]
structure AcceptableAction (record : Json) : Prop where
  kind : HasField record "type" IsString
  status : HasField record "status" IsString
  date : HasField record "date" IsDate
  pools : MayHaveField record "pools" (IsArrayOf IsString)
  inputs : MayHaveField record "in" (IsArrayOf AcceptableTransfer)
  outputs : MayHaveField record "out" (IsArrayOf AcceptableTransfer)

@[mk_iff]
structure AcceptablePage (document : Json) : Prop where
  actions : HasField document "actions" (IsArrayOf AcceptableAction)
  count : HasField document "count" IsCount

/-! ## What records denote -/

structure DenotesCoin (record : Json) (coin : Coin) : Prop where
  asset : record.field? "asset" = some (.string coin.asset.name)
  amount :
    HasField record "amount" fun value =>
      ∃ text, HasText value text ∧ Decimal.read text = .ok coin.amount

structure DenotesTransfer (record : Json) (transfer : Transfer) : Prop where
  coins :
    HasField record "coins" (DenotesList DenotesCoin · transfer.coins)
  address :
    ∀ address, transfer.address = some address ↔
      ∃ text, record.field? "address" = some (.string text) ∧
        trim text = address.text ∧ address.text ≠ ""
  txId :
    ∀ text, transfer.txId = some text ↔
      record.field? "txID" = some (.string text)

def DenotesPool (value : Json) (pool : Asset) : Prop :=
  value = .string pool.name

structure DenotesAction (record : Json) (action : Action) : Prop where
  kind :
    ∃ name, record.field? "type" = some (.string name) ∧
      action.kind = .ofName name
  status :
    ∃ name, record.field? "status" = some (.string name) ∧
      action.status = .ofName name
  date :
    HasField record "date" fun value =>
      ∃ text, HasText value text ∧
        IntegerLiteral (trim text).toList action.date.count.toInt
  height :
    ∀ height, action.height = some height ↔
      HasField record "height" fun value =>
        ∃ text, HasText value text ∧
          IntegerLiteral text.toList height.toInt
  pools : DenotesOptional DenotesPool record "pools" action.pools
  inputs : DenotesOptional DenotesTransfer record "in" action.inputs
  outputs : DenotesOptional DenotesTransfer record "out" action.outputs

structure DenotesPage (document : Json) (page : ActionsPage) : Prop where
  actions :
    HasField document "actions" (DenotesList DenotesAction · page.actions)
  count :
    HasField document "count" fun value =>
      ∃ text, HasText value text ∧
        NaturalLiteral (trim text).toList page.count
  count_lt : page.count < 2 ^ 64

/-! ## Readers give what records denote -/

variable {record : Json}

theorem readCoin_eq_ok_iff {coin : Coin} :
    readCoin record = .ok coin ↔ DenotesCoin record coin := by
  simp only [readCoin, Outcome.bind_eq_ok_iff, textField_eq_ok_iff,
    decimalField_eq_ok_iff, Outcome.pure_eq_ok, Except.ok.injEq]
  constructor
  · rintro ⟨asset, named, amount, read, rfl⟩
    exact ⟨named, read⟩
  · rintro ⟨named, read⟩
    exact ⟨coin.asset.name, named, coin.amount, read, rfl⟩

theorem readTransfer_eq_ok_iff {transfer : Transfer} :
    readTransfer record = .ok transfer ↔
      DenotesTransfer record transfer := by
  simp only [readTransfer, Outcome.bind_eq_ok_iff, arrayField_eq_ok_iff,
    Outcome.mapM_eq_ok_iff, readCoin_eq_ok_iff, Outcome.pure_eq_ok,
    Except.ok.injEq]
  constructor
  · rintro ⟨items, found, coins, denoted, rfl⟩
    exact ⟨⟨.array items, found, items, rfl, denoted⟩,
      fun _ => optionalAddress?_eq_some_iff,
      fun _ => optionalText?_eq_some_iff⟩
  · rintro ⟨⟨_, found, items, rfl, denoted⟩, address, txId⟩
    have sameAddress :
        optionalAddress? record "address" = transfer.address :=
      Option.ext fun present =>
        optionalAddress?_eq_some_iff.trans (address present).symm
    have sameTxId : optionalText? record "txID" = transfer.txId :=
      Option.ext fun text =>
        optionalText?_eq_some_iff.trans (txId text).symm
    exact ⟨items, found, transfer.coins, denoted, by
      rw [sameAddress, sameTxId]⟩

theorem readPoolName_eq_ok_iff {value : Json} {pool : Asset} :
    readPoolName value = .ok pool ↔ DenotesPool value pool := by
  simp only [readPoolName, Outcome.map_eq_ok_iff, orError_eq_ok_iff,
    string?_eq_some_iff, DenotesPool]
  constructor
  · rintro ⟨text, named, rfl⟩
    exact named
  · intro named
    exact ⟨pool.name, named, rfl⟩

theorem readAction_eq_ok_iff {action : Action} :
    readAction record = .ok action ↔ DenotesAction record action := by
  simp only [readAction, Outcome.bind_eq_ok_iff, textField_eq_ok_iff,
    integerField_eq_ok_iff, optionalArrayField_eq_ok_iff,
    readPoolName_eq_ok_iff, readTransfer_eq_ok_iff, Outcome.pure_eq_ok,
    Except.ok.injEq]
  constructor
  · rintro ⟨kind, kindFound, status, statusFound, date, dated, pools,
      poolsRead, inputs, inputsRead, outputs, outputsRead, rfl⟩
    exact ⟨⟨kind, kindFound, rfl⟩, ⟨status, statusFound, rfl⟩, dated,
      fun _ => height?_eq_some_iff, poolsRead, inputsRead, outputsRead⟩
  · rintro ⟨⟨kind, kindFound, sameKind⟩,
      ⟨status, statusFound, sameStatus⟩, dated, height, poolsRead,
      inputsRead, outputsRead⟩
    have sameHeight : height? record = action.height :=
      Option.ext fun present =>
        height?_eq_some_iff.trans (height present).symm
    exact ⟨kind, kindFound, status, statusFound, action.date.count, dated,
      action.pools, poolsRead, action.inputs, inputsRead, action.outputs,
      outputsRead, by rw [← sameKind, ← sameStatus, sameHeight]⟩

theorem readActionsPage_eq_ok_iff {page : ActionsPage} :
    readActionsPage record = .ok page ↔ DenotesPage record page := by
  simp only [readActionsPage, Outcome.bind_eq_ok_iff, arrayField_eq_ok_iff,
    Outcome.mapM_eq_ok_iff, readAction_eq_ok_iff, readCount_eq_ok_iff,
    Outcome.pure_eq_ok, Except.ok.injEq]
  constructor
  · rintro ⟨items, found, actions, denoted, count, ⟨small, counted⟩,
      rfl⟩
    exact ⟨⟨.array items, found, items, rfl, denoted⟩, counted, small⟩
  · rintro ⟨⟨_, found, items, rfl, denoted⟩, counted, small⟩
    exact ⟨items, found, page.actions, denoted, page.count,
      ⟨small, counted⟩, rfl⟩

/-! ## Records that denote something -/

theorem exists_amount_iff (value : Json) :
    (∃ number text, HasText value text ∧
        Decimal.read text = .ok number) ↔ IsAmount value := by
  rw [exists_comm, IsAmount]
  simp only [exists_and_left]

theorem exists_date_iff (value : Json) :
    (∃ integer : Int64, ∃ text, HasText value text ∧
        IntegerLiteral (trim text).toList integer.toInt) ↔
      IsDate value := by
  constructor
  · rintro ⟨integer, text, written, literal⟩
    exact ⟨text, written, integer.toInt, literal, integer.le_toInt,
      integer.toInt_lt⟩
  · rintro ⟨text, written, integer, literal, lower, upper⟩
    refine ⟨Int64.ofInt integer, text, written, ?_⟩
    rwa [Int64.toInt_ofInt_of_le lower upper]

theorem exists_denotesCoin_iff (record : Json) :
    (∃ coin, DenotesCoin record coin) ↔ AcceptableCoin record := by
  constructor
  · rintro ⟨coin, denoted⟩
    exact ⟨⟨_, denoted.asset, _, rfl⟩,
      (exists_hasField_iff exists_amount_iff).mp ⟨_, denoted.amount⟩⟩
  · rintro ⟨⟨_, named, name, rfl⟩, amount⟩
    obtain ⟨number, read⟩ :=
      (exists_hasField_iff exists_amount_iff).mpr amount
    exact ⟨⟨⟨name⟩, number⟩, named, read⟩

theorem exists_denotesTransfer_iff (record : Json) :
    (∃ transfer, DenotesTransfer record transfer) ↔
      AcceptableTransfer record := by
  constructor
  · rintro ⟨transfer, denoted⟩
    exact ⟨(exists_hasField_iff fun _ =>
      exists_denotesList_iff exists_denotesCoin_iff).mp
        ⟨_, denoted.coins⟩⟩
  · rintro ⟨coins⟩
    obtain ⟨coins, denoted⟩ :=
      (exists_hasField_iff fun _ =>
        exists_denotesList_iff exists_denotesCoin_iff).mpr coins
    exact ⟨⟨optionalAddress? record "address",
        optionalText? record "txID", coins⟩, denoted,
      fun _ => optionalAddress?_eq_some_iff,
      fun _ => optionalText?_eq_some_iff⟩

theorem exists_denotesPool_iff (value : Json) :
    (∃ pool, DenotesPool value pool) ↔ IsString value := by
  constructor
  · rintro ⟨pool, named⟩
    exact ⟨pool.name, named⟩
  · rintro ⟨name, named⟩
    exact ⟨⟨name⟩, named⟩

theorem exists_denotesAction_iff (record : Json) :
    (∃ action, DenotesAction record action) ↔
      AcceptableAction record := by
  constructor
  · rintro ⟨action, denoted⟩
    obtain ⟨kind, kindFound, _⟩ := denoted.kind
    obtain ⟨status, statusFound, _⟩ := denoted.status
    exact {
      kind := ⟨_, kindFound, kind, rfl⟩
      status := ⟨_, statusFound, status, rfl⟩
      date :=
        (exists_hasField_iff exists_date_iff).mp ⟨_, denoted.date⟩
      pools :=
        (exists_denotesOptional_iff exists_denotesPool_iff).mp
          ⟨_, denoted.pools⟩
      inputs :=
        (exists_denotesOptional_iff exists_denotesTransfer_iff).mp
          ⟨_, denoted.inputs⟩
      outputs :=
        (exists_denotesOptional_iff exists_denotesTransfer_iff).mp
          ⟨_, denoted.outputs⟩
    }
  · rintro ⟨⟨_, kindFound, kind, rfl⟩, ⟨_, statusFound, status, rfl⟩,
      date, pools, inputs, outputs⟩
    obtain ⟨date, dated⟩ := (exists_hasField_iff exists_date_iff).mpr date
    obtain ⟨pools, poolsRead⟩ :=
      (exists_denotesOptional_iff exists_denotesPool_iff).mpr pools
    obtain ⟨inputs, inputsRead⟩ :=
      (exists_denotesOptional_iff exists_denotesTransfer_iff).mpr inputs
    obtain ⟨outputs, outputsRead⟩ :=
      (exists_denotesOptional_iff exists_denotesTransfer_iff).mpr outputs
    exact ⟨{
        kind := .ofName kind
        status := .ofName status
        date := ⟨date⟩
        height := height? record
        pools, inputs, outputs
      }, ⟨kind, kindFound, rfl⟩, ⟨status, statusFound, rfl⟩, dated,
      fun _ => height?_eq_some_iff, poolsRead, inputsRead, outputsRead⟩

theorem exists_denotesPage_iff (document : Json) :
    (∃ page, DenotesPage document page) ↔ AcceptablePage document := by
  constructor
  · rintro ⟨page, actions, ⟨value, found, text, written, literal⟩,
      small⟩
    exact ⟨(exists_hasField_iff fun _ =>
        exists_denotesList_iff exists_denotesAction_iff).mp ⟨_, actions⟩,
      value, found, text, written, page.count, literal, by omega⟩
  · rintro ⟨actions, value, found, text, written, count, literal, bounded⟩
    obtain ⟨actions, denoted⟩ :=
      (exists_hasField_iff fun _ =>
        exists_denotesList_iff exists_denotesAction_iff).mpr actions
    exact ⟨⟨actions, count⟩, denoted,
      ⟨value, found, text, written, literal⟩, by simp only; omega⟩

/-! ## Acceptance -/

/-- Whether a reader accepts a record depends on the named fields alone. -/
def AcceptsBy
    {α : Type}
    (read : Json → Except RecordError α)
    (names : List String) :
    Prop :=
  ∀ record other,
    (∀ name ∈ names, record.field? name = other.field? name) →
      ((∃ value, read record = .ok value) ↔
        ∃ value, read other = .ok value)

theorem acceptsBy_readCoin : AcceptsBy readCoin ["asset", "amount"] := by
  intro record other agree
  simp only [List.forall_mem_cons] at agree
  simp only [readCoin_eq_ok_iff, exists_denotesCoin_iff,
    acceptableCoin_iff, HasField, agree.1, agree.2.1]

theorem acceptsBy_readTransfer : AcceptsBy readTransfer ["coins"] := by
  intro record other agree
  simp only [List.forall_mem_cons] at agree
  simp only [readTransfer_eq_ok_iff, exists_denotesTransfer_iff,
    acceptableTransfer_iff, HasField, agree.1]

theorem acceptsBy_readAction :
    AcceptsBy readAction ["type", "status", "date", "pools", "in", "out"] := by
  intro record other agree
  simp only [List.forall_mem_cons] at agree
  obtain ⟨kind, status, date, pools, inputs, outputs, _⟩ := agree
  simp only [readAction_eq_ok_iff, exists_denotesAction_iff,
    acceptableAction_iff, MayHaveField, LacksField, HasField, kind, status,
    date, pools, inputs, outputs]

theorem acceptsBy_readActionsPage :
    AcceptsBy readActionsPage ["actions", "count"] := by
  intro record other agree
  simp only [List.forall_mem_cons] at agree
  simp only [readActionsPage_eq_ok_iff, exists_denotesPage_iff,
    acceptablePage_iff, HasField, agree.1, agree.2.1]

/--
The reader of pages accepts exactly the documents of the grammar and gives the
page that such a document denotes; whether it accepts depends on no other
fields than the grammar names.
-/
theorem readActionsPage_accepts_grammar :
    (∀ document,
      (∃ page, readActionsPage document = .ok page) ↔
        AcceptablePage document) ∧
    (∀ document page,
      readActionsPage document = .ok page ↔ DenotesPage document page) ∧
    AcceptsBy readActionsPage ["actions", "count"] ∧
    AcceptsBy readAction
      ["type", "status", "date", "pools", "in", "out"] ∧
    AcceptsBy readTransfer ["coins"] ∧
    AcceptsBy readCoin ["asset", "amount"] := by
  refine ⟨fun document => ?_, fun _ _ => readActionsPage_eq_ok_iff,
    acceptsBy_readActionsPage, acceptsBy_readAction, acceptsBy_readTransfer,
    acceptsBy_readCoin⟩
  simp only [readActionsPage_eq_ok_iff]
  exact exists_denotesPage_iff document

end LiquidityReturns.Midgard
