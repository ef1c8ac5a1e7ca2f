import LiquidityReturns.Codec.Summary
import LiquidityReturns.Service.Failure

namespace LiquidityReturns

/-!
# The question for the returns of a position

The query of the request names an address and a pool, each at most once.  Both
are needed, the address first, and blanks around them are ignored.
-/

namespace Service

/-- The address and the pool that a query names. -/
structure ReturnsQuery where
  address : Option String
  pool : Option String
  deriving Repr, DecidableEq

namespace ReturnsQuery

/-- A query that names nothing. -/
def empty : ReturnsQuery where
  address := none
  pool := none

/-- Take one pair of a query; the error is the name of a repeated field. -/
def take
    (query : ReturnsQuery)
    (pair : String × String) :
    Except String ReturnsQuery :=
  if pair.1 = "address" then
    if query.address.isSome then
      .error "address"
    else
      .ok { query with address := some pair.2 }
  else if pair.1 = "pool" then
    if query.pool.isSome then
      .error "pool"
    else
      .ok { query with pool := some pair.2 }
  else
    .ok query

/--
The query of some pairs; the error is the name of the first repeated field.
-/
def ofPairs (pairs : List (String × String)) : Except String ReturnsQuery :=
  pairs.foldlM take empty

end ReturnsQuery

/-- The answer to the question for the returns of a position. -/
structure ReturnsAnswer where
  address : Address
  pool : Asset
  summary : ReturnSummary
  report : PositionReport
  deriving Repr, DecidableEq

namespace ReturnsAnswer

/-- The record of an answer. -/
def toJson (answer : ReturnsAnswer) : Json :=
  .record
    [("address", answer.address.toJson),
      ("pool", answer.pool.toJson),
      ("summary", answer.summary.toJson),
      ("report", answer.report.toJson)]

end ReturnsAnswer

/-- A value without the blanks around it, which must be there. -/
def required (name : String) (value : Option String) : Except Failure String :=
  match value.map Text.trim with
  | none =>
      .error (.badRequest s!"{name} is required")
  | some trimmed =>
      if trimmed.isEmpty then
        .error (.badRequest s!"{name} is required")
      else
        .ok trimmed

/-- Answer the question for the returns of a position. -/
def answerReturns
    (source : DataSource)
    (config : Config)
    (query : ReturnsQuery) :
    Traced Failure ReturnsAnswer := do
  let address ← .ofExcept (required "address" query.address)
  let pool ← .ofExcept (required "pool" query.pool)
  let returns ←
    (source.positionReturns config ⟨address⟩ ⟨pool⟩).mapError
      Failure.ofInquiry
  let report ←
    .ofExcept
      ((PositionReport.ofSummary returns.summary).mapError fun failure =>
        .internal failure.message)
  return {
    address := ⟨address⟩
    pool := ⟨pool⟩
    summary := returns.summary
    report
  }

end Service

end LiquidityReturns
