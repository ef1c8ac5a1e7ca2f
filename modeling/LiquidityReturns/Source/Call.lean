import LiquidityReturns.Source.Basic

namespace LiquidityReturns

/-!
# Questions to a source

A question names one of the four things that a source knows, so that questions
can be recorded, counted and put into words.
-/

/-- A question to a source. -/
inductive Call where
  | member (address : Address)
  | pool (pool : Asset)
  | actions (addresses : List Address) (limit offset : Nat)
  | price (pool : Asset) (second : Second)
  deriving Repr, DecidableEq

namespace Call

/-- A question in words. -/
def description : Call → String
  | .member address =>
      s!"member {address}"
  | .pool asset =>
      s!"pool {asset}"
  | .actions addresses limit offset =>
      let list := ",".intercalate (addresses.map Address.text)
      s!"actions {list} limit={limit} offset={offset}"
  | .price asset second =>
      s!"price {asset} {second}"

/-- Whether a question asks for a page of actions. -/
def isActions : Call → Bool
  | .actions .. =>
      true
  | _ =>
      false

/-- Whether a question asks for a price. -/
def isPrice : Call → Bool
  | .price .. =>
      true
  | _ =>
      false

/-- The number of pages of actions that were asked for. -/
def actionRequests (calls : List Call) : Nat :=
  calls.countP isActions

/-- The number of prices that were asked for. -/
def priceRequests (calls : List Call) : Nat :=
  calls.countP isPrice

end Call

end LiquidityReturns
