import LiquidityReturns.Ledger.Action
import LiquidityReturns.Pool.State
import LiquidityReturns.Prices.Series

namespace LiquidityReturns

/-!
# Sources of ledger data

A source answers four questions: in which pools a member has positions, what
state a pool is in, which actions concern some addresses, page by page, and
what the prices of a pool were in one second.
-/

/-- Why a source has no answer. -/
inductive SourceError where
  | network (message : String)
  | http (status : Nat) (message : String)
  | parse (message : String)
  | rateLimited
  | notFound (what : String)
  | other (message : String)
  deriving Repr, DecidableEq

namespace SourceError

/-- The wording of a missing answer. -/
def message : SourceError → String
  | .network message =>
      s!"Network error: {message}"
  | .http status message =>
      s!"HTTP error {status}: {message}"
  | .parse message =>
      s!"Parse error: {message}"
  | .rateLimited =>
      "Rate limited"
  | .notFound what =>
      s!"Not found: {what}"
  | .other message =>
      s!"Error: {message}"

/-- Whether the source does not know what was asked for. -/
def isNotFound : SourceError → Bool
  | .notFound _ =>
      true
  | _ =>
      false

end SourceError

/-- One page of a list of actions, and the number of actions on all pages. -/
structure ActionsPage where
  actions : List Action
  count : Nat
  deriving Repr, DecidableEq

/-- The answers of a source to the four questions. -/
structure DataSource where
  member : Address → Except SourceError (List MemberPool)
  pool : Asset → Except SourceError PoolState
  actions :
    (addresses : List Address) → (limit offset : Nat) →
      Except SourceError ActionsPage
  price : Asset → Second → Except SourceError PriceSample

end LiquidityReturns
