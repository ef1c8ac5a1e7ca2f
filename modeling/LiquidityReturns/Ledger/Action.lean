import LiquidityReturns.Decimal.Arithmetic
import LiquidityReturns.Ledger.Asset
import LiquidityReturns.Ledger.Time

namespace LiquidityReturns

/-!
# Actions of the ledger

An action moves coins into and out of pools.  Its list of pools and its two
legs may be missing from an incomplete record; the computation of returns
reports that, and nothing here assumes them present.
-/

/-- The kind of an action; only additions and withdrawals change a position. -/
inductive ActionKind where
  | addLiquidity
  | withdraw
  | other (name : String)
  deriving Repr, DecidableEq

namespace ActionKind

/-- The kind of a given name. -/
def ofName (name : String) : ActionKind :=
  if name = "addLiquidity" then
    .addLiquidity
  else if name = "withdraw" then
    .withdraw
  else
    .other name

def name : ActionKind → String
  | .addLiquidity =>
      "addLiquidity"
  | .withdraw =>
      "withdraw"
  | .other name =>
      name

/-- The kinds of action that change positions. -/
def positionKinds : List ActionKind :=
  [.addLiquidity, .withdraw]

instance : ToString ActionKind :=
  ⟨name⟩

theorem name_ofName (text : String) : (ofName text).name = text := by
  unfold ofName
  split
  · simp_all [name]
  · split <;> simp_all [name]

end ActionKind

/-- The settlement status of an action. -/
inductive ActionStatus where
  | success
  | pending
  | other (name : String)
  deriving Repr, DecidableEq

namespace ActionStatus

/-- The status of a given name. -/
def ofName (name : String) : ActionStatus :=
  if name = "success" then
    .success
  else if name = "pending" then
    .pending
  else
    .other name

def name : ActionStatus → String
  | .success =>
      "success"
  | .pending =>
      "pending"
  | .other name =>
      name

theorem name_ofName (text : String) : (ofName text).name = text := by
  unfold ofName
  split
  · simp_all [name]
  · split <;> simp_all [name]

end ActionStatus

/-- An amount of one asset, in the fixed-point scale of the ledger. -/
structure Coin where
  asset : Asset
  amount : Decimal
  deriving Repr, DecidableEq

/-- The coins that one transaction moved from or to an address. -/
structure Transfer where
  address : Option Address
  txId : Option String
  coins : List Coin
  deriving Repr, DecidableEq

/-- One event of the ledger that may change positions. -/
structure Action where
  kind : ActionKind
  status : ActionStatus
  date : Nanoseconds
  height : Option Int64
  pools : Option (List Asset)
  inputs : Option (List Transfer)
  outputs : Option (List Transfer)
  deriving Repr, DecidableEq

namespace Coin

/-- Whether a coin counts towards the flows of a position in a pool. -/
def inPosition (coin : Coin) (pool : Asset) : Bool :=
  coin.asset.isRune || coin.asset = pool

end Coin

namespace Transfer

/-- A transfer of coins without address and transaction. -/
def ofCoins (coins : List Coin) : Transfer where
  address := none
  txId := none
  coins := coins

/-- The coins of several transfers, in order. -/
def allCoins (transfers : List Transfer) : List Coin :=
  transfers.flatMap Transfer.coins

end Transfer

namespace Action

/-- An action in one pool that moves nothing yet. -/
def inPool
    (kind : ActionKind)
    (status : ActionStatus)
    (date : Nanoseconds)
    (pool : Asset) :
    Action where
  kind := kind
  status := status
  date := date
  height := none
  pools := some [pool]
  inputs := some []
  outputs := some []

/-- Append a transfer to the inbound leg, which exists afterwards. -/
def addInput (action : Action) (transfer : Transfer) : Action :=
  { action with inputs := some (action.inputs.getD [] ++ [transfer]) }

/-- Append a transfer to the outbound leg, which exists afterwards. -/
def addOutput (action : Action) (transfer : Transfer) : Action :=
  { action with outputs := some (action.outputs.getD [] ++ [transfer]) }

def isSuccess (action : Action) : Bool :=
  action.status = .success

/--
Whether an action touches exactly the given pool; unknown when its list of
pools is missing.
-/
def touchesOnly? (action : Action) (pool : Asset) : Option Bool :=
  action.pools.map fun pools => pools = [pool]

/-- Whether the kind of an action changes positions. -/
def changesPositions (action : Action) : Bool :=
  match action.kind with
  | .other _ =>
      false
  | _ =>
      true

/-- Whether an action counts towards the returns of a position in a pool. -/
def counts (action : Action) (pool : Asset) : Bool :=
  action.isSuccess && action.touchesOnly? pool == some true &&
    action.changesPositions

end Action

end LiquidityReturns
