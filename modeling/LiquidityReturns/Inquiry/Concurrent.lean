import LiquidityReturns.Inquiry.PositionReturns

namespace LiquidityReturns

/-!
# Inquiries with several questions under way

A source may be asked again before it has answered.  The member and the pool
are asked for at once, and so are all pages after the first.  Prices are asked
for with at most a given number of questions under way, and their answers come
in any order.  The relations of this module hold of the outcomes that some
order of the answers leads to.
-/

/--
Prices that are being asked for: the seconds that were not asked for yet, the
seconds without an answer yet, and the samples in the order of their answers.
-/
structure PriceQueue where
  waiting : List Second
  underway : List Second
  samples : List PriceSample

namespace PriceQueue

/-- Nothing was asked for yet. -/
def start (seconds : List Second) : PriceQueue where
  waiting := seconds
  underway := []
  samples := []

/-- Ask for one more second while there is room, or take an answer. -/
inductive Step (source : DataSource) (pool : Asset) (limit : Nat) :
    PriceQueue → PriceQueue → Prop where
  | ask
      {second : Second}
      {waiting underway : List Second}
      {samples : List PriceSample}
      (room : underway.length < limit) :
      Step source pool limit
        ⟨second :: waiting, underway, samples⟩
        ⟨waiting, second :: underway, samples⟩
  | answer
      {second : Second}
      {waiting earlier later : List Second}
      {samples : List PriceSample}
      {sample : Option PriceSample}
      (answered :
        contribution second (source.price pool second) = .ok sample) :
      Step source pool limit
        ⟨waiting, earlier ++ second :: later, samples⟩
        ⟨waiting, earlier ++ later, samples ++ sample.toList⟩

/-- How asking may end: with all answers, or with the first failure. -/
inductive Ends (source : DataSource) (pool : Asset) (limit : Nat) :
    PriceQueue → Except SourceError (List PriceSample) → Prop where
  | done {samples : List PriceSample} :
      Ends source pool limit ⟨[], [], samples⟩ (.ok samples)
  | failed
      {second : Second}
      {waiting earlier later : List Second}
      {samples : List PriceSample}
      {failure : SourceError}
      (answered :
        contribution second (source.price pool second) = .error failure) :
      Ends source pool limit
        ⟨waiting, earlier ++ second :: later, samples⟩ (.error failure)
  | step
      {before after : PriceQueue}
      {outcome : Except SourceError (List PriceSample)}
      (first : Step source pool limit before after)
      (rest : Ends source pool limit after outcome) :
      Ends source pool limit before outcome

end PriceQueue

namespace DataSource

/--
How asking for all pages may end: with all actions in order, or with the
failure of a page.
-/
inductive PagesEnd
    (source : DataSource)
    (addresses : List Address)
    (limit : Nat) :
    Except SourceError (List Action) → Prop where
  | firstFailed
      {failure : SourceError}
      (failed : source.actions addresses limit 0 = .error failure) :
      PagesEnd source addresses limit (.error failure)
  | laterFailed
      {first : ActionsPage}
      {offset : Nat}
      {failure : SourceError}
      (answered : source.actions addresses limit 0 = .ok first)
      (asked : offset ∈ laterOffsets first.count limit)
      (failed : source.actions addresses limit offset = .error failure) :
      PagesEnd source addresses limit (.error failure)
  | joined
      {first : ActionsPage}
      {later : List ActionsPage}
      (answered : source.actions addresses limit 0 = .ok first)
      (laterAnswered :
        (laterOffsets first.count limit).mapM
            (source.actions addresses limit) =
          .ok later) :
      PagesEnd source addresses limit
        (.ok (first.actions ++ later.flatMap ActionsPage.actions))

/--
The position that a source shows: the first record of a member for a pool, and
the pool's state.
-/
structure ShowsPosition
    (source : DataSource)
    (address : Address)
    (pool : Asset)
    (member : MemberPool)
    (poolState : PoolState) : Prop where
  memberFound :
    ∃ members,
      source.member address = .ok members ∧
        findMember? members pool = some member
  poolFound : source.pool pool = .ok poolState

/-- How an inquiry for the returns of a position may end. -/
inductive ReturnsEnd
    (source : DataSource)
    (config : Config)
    (address : Address)
    (pool : Asset) :
    Except InquiryError PositionReturns → Prop where
  | memberFailed
      {failure : SourceError}
      (failed : source.member address = .error failure) :
      ReturnsEnd source config address pool
        (.error (.ofLookup address pool failure))
  | poolFailed
      {failure : SourceError}
      (failed : source.pool pool = .error failure) :
      ReturnsEnd source config address pool
        (.error (.ofLookup address pool failure))
  | noPosition
      {members : List MemberPool}
      {poolState : PoolState}
      (memberFound : source.member address = .ok members)
      (poolFound : source.pool pool = .ok poolState)
      (absent : findMember? members pool = none) :
      ReturnsEnd source config address pool
        (.error (.positionNotFound address pool))
  | pagesFailed
      {member : MemberPool}
      {poolState : PoolState}
      {failure : SourceError}
      (shown : source.ShowsPosition address pool member poolState)
      (pages :
        source.PagesEnd (member.actionAddresses address)
          config.actionsPageLimit (.error failure)) :
      ReturnsEnd source config address pool (.error (.source failure))
  | pricesFailed
      {member : MemberPool}
      {poolState : PoolState}
      {actions : List Action}
      {failure : SourceError}
      (shown : source.ShowsPosition address pool member poolState)
      (pages :
        source.PagesEnd (member.actionAddresses address)
          config.actionsPageLimit (.ok actions))
      (prices :
        (PriceQueue.start (requestedSeconds pool actions)).Ends source pool
          config.priceFetchConcurrency (.error failure)) :
      ReturnsEnd source config address pool (.error (.source failure))
  | gathered
      {member : MemberPool}
      {poolState : PoolState}
      {actions : List Action}
      {samples : List PriceSample}
      (shown : source.ShowsPosition address pool member poolState)
      (pages :
        source.PagesEnd (member.actionAddresses address)
          config.actionsPageLimit (.ok actions))
      (prices :
        (PriceQueue.start (requestedSeconds pool actions)).Ends source pool
          config.priceFetchConcurrency (.ok samples)) :
      ReturnsEnd source config address pool
        (PositionReturns.ofGathered address member poolState actions samples)

end DataSource

end LiquidityReturns
