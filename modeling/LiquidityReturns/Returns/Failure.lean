import LiquidityReturns.Ledger.Action

namespace LiquidityReturns

/-!
# Why a computation of returns fails

An arithmetic step fails on a zero divisor or on a result that is too large.
A computation adds what it was computing, and it may also lack a price or meet
an incomplete action.  A computation that fails yields no partial result.
-/

/-- A unit of account. -/
inductive Denomination where
  | rune
  | asset
  | usd
  deriving Repr, DecidableEq

namespace Denomination

/-- The name of a unit of account. -/
def name : Denomination → String
  | .rune =>
      "rune"
  | .asset =>
      "asset"
  | .usd =>
      "usd"

def all : List Denomination :=
  [.rune, .asset, .usd]

end Denomination

/-- A part of an action that a record may lack. -/
inductive ActionPart where
  | pools
  | inputs
  | outputs
  deriving Repr, DecidableEq

namespace ActionPart

/-- The name of a part as it stands in a record. -/
def name : ActionPart → String
  | .pools =>
      "pools"
  | .inputs =>
      "in"
  | .outputs =>
      "out"

end ActionPart

/-- Why an arithmetic step fails. -/
inductive ArithmeticError where
  | divisionByZero
  | overflow
  deriving Repr, DecidableEq

namespace ArithmeticError

/-- The wording of an arithmetic failure in the computation of something. -/
def message (failure : ArithmeticError) (computing : String) : String :=
  match failure with
  | .divisionByZero =>
      s!"division by zero computing {computing}"
  | .overflow =>
      s!"arithmetic overflow computing {computing}"

end ArithmeticError

/-- Why the returns of a position cannot be computed. -/
inductive ComputationError where
  | missingPrice
      (kind : ActionKind)
      (date : Nanoseconds)
      (second : Second)
      (denomination : Denomination)
  | malformedAction
      (kind : ActionKind)
      (date : Nanoseconds)
      (part : ActionPart)
  | arithmetic (failure : ArithmeticError) (computing : String)
  deriving Repr, DecidableEq

namespace ComputationError

/-- The wording of a failed computation. -/
def message : ComputationError → String
  | .missingPrice kind date second denomination =>
      s!"missing {denomination.name} price sample at {second}" ++
        s!" for {kind} action dated {date}"
  | .malformedAction kind date part =>
      s!"malformed {kind} action dated {date}: missing `{part.name}`"
  | .arithmetic failure computing =>
      failure.message computing

end ComputationError

/-- State what an arithmetic step was computing. -/
def computing
    (description : String)
    (result : Except ArithmeticError α) :
    Except ComputationError α :=
  result.mapError fun failure => .arithmetic failure description

end LiquidityReturns
