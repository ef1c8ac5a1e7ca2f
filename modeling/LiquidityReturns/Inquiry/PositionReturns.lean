import LiquidityReturns.Config
import LiquidityReturns.Inquiry.Pages
import LiquidityReturns.Inquiry.PriceRequests
import LiquidityReturns.Returns.Summary

namespace LiquidityReturns

/-!
# The returns of a member's position

An inquiry gathers everything that a computation of returns needs, in order:
the member and the pool, the actions of the member's addresses, and the prices
in the seconds of those actions.  The computation runs on what was gathered.
-/

/-- The returns of a position and what they were computed from. -/
structure PositionReturns where
  address : Address
  member : MemberPool
  poolState : PoolState
  actionsFetched : Nat
  priceSamples : Nat
  summary : ReturnSummary
  deriving Repr, DecidableEq

/-- Why an inquiry has no result. -/
inductive InquiryError where
  | positionNotFound (address : Address) (pool : Asset)
  | source (failure : SourceError)
  | computation (failure : ComputationError)
  deriving Repr, DecidableEq

namespace InquiryError

/-- The wording of a failed inquiry. -/
def message : InquiryError → String
  | .positionNotFound address pool =>
      s!"No position in {pool} for {address}"
  | .source failure =>
      failure.message
  | .computation failure =>
      failure.message

/--
A member or pool that the source does not know means that there is no position.
-/
def ofLookup
    (address : Address)
    (pool : Asset)
    (failure : SourceError) :
    InquiryError :=
  if failure.isNotFound then
    .positionNotFound address pool
  else
    .source failure

end InquiryError

/-- The first record of a member for a pool. -/
def findMember?
    (members : List MemberPool)
    (pool : Asset) :
    Option MemberPool :=
  members.find? fun member => member.position.pool = pool

namespace PositionReturns

/-- The returns of a position from everything that was gathered for it. -/
def ofGathered
    (address : Address)
    (member : MemberPool)
    (poolState : PoolState)
    (actions : List Action)
    (samples : List PriceSample) :
    Except InquiryError PositionReturns := do
  let summary ←
    (computeReturns member.position poolState actions
      (PriceHistory.ofSamples samples)).mapError .computation
  return {
    address
    member
    poolState
    actionsFetched := actions.length
    priceSamples := samples.length
    summary
  }

end PositionReturns

namespace DataSource

/-- Ask for a member's record in a pool and for the state of the pool. -/
def askPosition
    (source : DataSource)
    (address : Address)
    (pool : Asset) :
    Traced InquiryError (MemberPool × PoolState) := do
  let members ←
    (Traced.ask (.member address) (source.member address)).mapError
      (InquiryError.ofLookup address pool)
  let state ←
    (Traced.ask (.pool pool) (source.pool pool)).mapError
      (InquiryError.ofLookup address pool)
  match findMember? members pool with
  | none =>
      .ofExcept (.error (.positionNotFound address pool))
  | some member =>
      return (member, state)

theorem outcome_askPosition
    (source : DataSource)
    (address : Address)
    (pool : Asset) :
    (source.askPosition address pool).outcome = (do
      let members ←
        (source.member address).mapError
          (InquiryError.ofLookup address pool)
      let poolState ←
        (source.pool pool).mapError (InquiryError.ofLookup address pool)
      match findMember? members pool with
      | none =>
          .error (.positionNotFound address pool)
      | some member =>
          .ok (member, poolState)) := by
  unfold askPosition
  simp only [Traced.outcome_bind, Traced.outcome_mapError,
    Traced.outcome_ask]
  refine bind_congr fun members => bind_congr fun poolState => ?_
  cases findMember? members pool <;> rfl

/-- The returns of the position that an address has in a pool. -/
def positionReturns
    (source : DataSource)
    (config : Config)
    (address : Address)
    (pool : Asset) :
    Traced InquiryError PositionReturns := do
  let (member, poolState) ← source.askPosition address pool
  let actions ←
    (source.askAllActions (member.actionAddresses address)
      config.actionsPageLimit).mapError .source
  let samples ← (source.askPrices pool actions).mapError .source
  .ofExcept
    (PositionReturns.ofGathered address member poolState actions samples)

/-- An inquiry goes through its stages one after another. -/
theorem outcome_positionReturns
    (source : DataSource)
    (config : Config)
    (address : Address)
    (pool : Asset) :
    (source.positionReturns config address pool).outcome = (do
      let (member, poolState) ← (source.askPosition address pool).outcome
      let actions ←
        (source.askAllActions (member.actionAddresses address)
          config.actionsPageLimit).outcome.mapError .source
      let samples ← (source.askPrices pool actions).outcome.mapError .source
      PositionReturns.ofGathered address member poolState actions
        samples) := by
  unfold positionReturns
  simp only [Traced.outcome_bind, Traced.outcome_mapError,
    Traced.outcome_ofExcept]

end DataSource

end LiquidityReturns
