import Mathlib
import LiquidityReturns.Proofs.Inquiry.GatheredPrices
import LiquidityReturns.Proofs.Inquiry.Paging

namespace LiquidityReturns

/-!
# How an inquiry ends

An inquiry asks for the member and the pool, then for all pages of actions, and
then for the prices in the seconds of the actions that count; then the returns
are computed.  Not knowing means a different thing at each stage: at the first
it means that there is no position, at the second it is a failure like any
other, and at the third it is no failure.  Each stage has one law for its
success and one for its failure, and the laws of an inquiry are put together
from these.
-/

/-- A source does not know what was asked for when it says so. -/
theorem SourceError.isNotFound_iff {failure : SourceError} :
    failure.isNotFound = true ↔ ∃ what, failure = .notFound what := by
  cases failure <;> simp [isNotFound]

namespace InquiryError

/-- Whether an inquiry failed because there is no position. -/
def isPositionNotFound : InquiryError → Bool
  | .positionNotFound .. =>
      true
  | _ =>
      false

theorem isPositionNotFound_ofLookup
    (address : Address)
    (pool : Asset)
    (failure : SourceError) :
    (ofLookup address pool failure).isPositionNotFound =
      failure.isNotFound := by
  unfold ofLookup
  cases unknown : failure.isNotFound <;> rfl

end InquiryError

namespace DataSource

/--
The first failing lookup does not know what was asked for, or the member has no
record for the pool.
-/
inductive NoPosition
    (source : DataSource)
    (address : Address)
    (pool : Asset) : Prop where
  | memberUnknown
      {what : String}
      (failed : source.member address = .error (.notFound what))
  | poolUnknown
      {members : List MemberPool}
      {what : String}
      (memberFound : source.member address = .ok members)
      (failed : source.pool pool = .error (.notFound what))
  | noRecord
      {members : List MemberPool}
      {poolState : PoolState}
      (memberFound : source.member address = .ok members)
      (poolFound : source.pool pool = .ok poolState)
      (absent : ∀ member ∈ members, member.position.pool ≠ pool)

/-- A lookup fails otherwise than by not knowing what was asked for. -/
def LookupFails
    (source : DataSource)
    (address : Address)
    (pool : Asset) : Prop :=
  ∃ failure : SourceError,
    failure.isNotFound = false ∧
      (source.member address = .error failure ∨
        source.pool pool = .error failure)

/--
The offsets at which pages are asked for: the front, and the multiples of the
page size below the number of actions that the first page tells.
-/
inductive AsksPage
    (source : DataSource)
    (addresses : List Address)
    (limit : ℕ) : ℕ → Prop where
  | first : AsksPage source addresses limit 0
  | later
      {first : ActionsPage}
      {page : ℕ}
      (answered : source.actions addresses limit 0 = .ok first)
      (positive : 0 < page)
      (within : page * limit < first.count) :
      AsksPage source addresses limit (page * limit)

/-- A page that is asked for fails, be it by not being known. -/
def PageFails
    (source : DataSource)
    (addresses : List Address)
    (limit : ℕ) : Prop :=
  ∃ offset failure,
    source.AsksPage addresses limit offset ∧
      source.actions addresses limit offset = .error failure

/--
A price in the second of an action that counts fails otherwise than by not
being known.
-/
def PriceFails
    (source : DataSource)
    (pool : Asset)
    (actions : List Action) : Prop :=
  ∃ action ∈ actions,
    action.counts pool = true ∧
      ∃ failure : SourceError,
        failure.isNotFound = false ∧
          source.price pool action.date.second = .error failure

/--
Every second of an action that counts is answered with a sample, or by not
being known.
-/
def PricesAnswered
    (source : DataSource)
    (pool : Asset)
    (actions : List Action) : Prop :=
  ∀ action ∈ actions,
    action.counts pool = true →
      source.Knows pool action.date.second ∨
        source.Lacks pool action.date.second

/-- The prices that a source gives for the seconds of the actions that count. -/
def gatheredHistory
    (source : DataSource)
    (pool : Asset)
    (actions : List Action) :
    PriceHistory :=
  .ofSamples
    ((requestedSeconds pool actions).filterMap (source.sampleAt? pool))

/--
Everything that a computation of returns needs has been gathered from a source.
-/
structure Gathered
    (source : DataSource)
    (config : Config)
    (address : Address)
    (pool : Asset)
    (member : MemberPool)
    (poolState : PoolState)
    (actions : List Action) : Prop where
  shown : source.ShowsPosition address pool member poolState
  listed :
    source.PagesEnd (member.actionAddresses address)
      config.actionsPageLimit (.ok actions)
  priced : source.PricesAnswered pool actions

/--
An inquiry that shows a position fails at a later stage, or at a lookup for
another reason.
-/
inductive InquiryFails
    (source : DataSource)
    (config : Config)
    (address : Address)
    (pool : Asset) : Prop where
  | lookup (failed : source.LookupFails address pool)
  | page
      {member : MemberPool}
      {poolState : PoolState}
      (shown : source.ShowsPosition address pool member poolState)
      (failed :
        source.PageFails (member.actionAddresses address)
          config.actionsPageLimit)
  | price
      {member : MemberPool}
      {poolState : PoolState}
      {actions : List Action}
      (shown : source.ShowsPosition address pool member poolState)
      (listed :
        source.PagesEnd (member.actionAddresses address)
          config.actionsPageLimit (.ok actions))
      (failed : source.PriceFails pool actions)
  | computation
      {member : MemberPool}
      {poolState : PoolState}
      {actions : List Action}
      {failure : ComputationError}
      (gathered :
        source.Gathered config address pool member poolState actions)
      (failed :
        computeReturns member.position poolState actions
            (source.gatheredHistory pool actions) =
          .error failure)

variable
  {source : DataSource}
  {config : Config}
  {address : Address}
  {pool : Asset}
  {addresses : List Address}
  {limit : ℕ}
  {actions : List Action}

/-- Asking for a position finds the one that the source shows. -/
theorem askPosition_eq_ok_iff
    {member : MemberPool}
    {poolState : PoolState} :
    (source.askPosition address pool).outcome =
        .ok (member, poolState) ↔
      source.ShowsPosition address pool member poolState := by
  rw [outcome_askPosition]
  simp only [Outcome.bind_eq_ok_iff, Outcome.mapError_eq_ok_iff]
  constructor
  · rintro ⟨members, memberFound, state, poolFound, found⟩
    cases first : findMember? members pool with
    | none =>
        rw [first] at found
        cases found
    | some record =>
        rw [first] at found
        cases found
        exact ⟨⟨members, memberFound, first⟩, poolFound⟩
  · rintro ⟨⟨members, memberFound, first⟩, poolFound⟩
    exact ⟨members, memberFound, poolState, poolFound, by rw [first]⟩

/-- Where asking for a position fails: at a lookup, or for lack of a record. -/
theorem askPosition_eq_error_iff {failure : InquiryError} :
    (source.askPosition address pool).outcome = .error failure ↔
      (∃ reason,
        source.member address = .error reason ∧
          InquiryError.ofLookup address pool reason = failure) ∨
      ∃ members,
        source.member address = .ok members ∧
          ((∃ reason,
            source.pool pool = .error reason ∧
              InquiryError.ofLookup address pool reason = failure) ∨
          ∃ poolState,
            source.pool pool = .ok poolState ∧
              (∀ member ∈ members, member.position.pool ≠ pool) ∧
              InquiryError.positionNotFound address pool = failure) := by
  have absent :
      ∀ members : List MemberPool,
        findMember? members pool = none ↔
          ∀ member ∈ members, member.position.pool ≠ pool := by
    simp [findMember?]
  rw [outcome_askPosition]
  simp only [Outcome.bind_eq_error_iff, Outcome.mapError_eq_ok_iff,
    Outcome.mapError_eq_error_iff, ← absent]
  refine or_congr_right (exists_congr fun members => and_congr_right
    fun _ => or_congr_right (exists_congr fun poolState => and_congr_right
      fun _ => ?_))
  cases findMember? members pool <;> simp

/-- Asking for a position finds none exactly when there is none. -/
theorem askPosition_finds_none_iff :
    (∃ failure : InquiryError,
      failure.isPositionNotFound = true ∧
        (source.askPosition address pool).outcome = .error failure) ↔
      source.NoPosition address pool := by
  simp only [askPosition_eq_error_iff]
  constructor
  · rintro ⟨_, missing, ⟨reason, failed, rfl⟩ |
      ⟨members, memberFound, ⟨reason, failed, rfl⟩ |
        ⟨poolState, poolFound, absent, rfl⟩⟩⟩
    · rw [InquiryError.isPositionNotFound_ofLookup] at missing
      obtain ⟨what, rfl⟩ := SourceError.isNotFound_iff.mp missing
      exact .memberUnknown failed
    · rw [InquiryError.isPositionNotFound_ofLookup] at missing
      obtain ⟨what, rfl⟩ := SourceError.isNotFound_iff.mp missing
      exact .poolUnknown memberFound failed
    · exact .noRecord memberFound poolFound absent
  · intro none
    cases none with
    | memberUnknown failed =>
        exact ⟨_, rfl, .inl ⟨_, failed, rfl⟩⟩
    | poolUnknown memberFound failed =>
        exact ⟨_, rfl, .inr ⟨_, memberFound, .inl ⟨_, failed, rfl⟩⟩⟩
    | noRecord memberFound poolFound absent =>
        exact ⟨_, rfl,
          .inr ⟨_, memberFound, .inr ⟨_, poolFound, absent, rfl⟩⟩⟩

/-- Where a position is shown, there is one and no lookup fails. -/
theorem ShowsPosition.not_noPosition
    {member : MemberPool}
    {poolState : PoolState}
    (shown : source.ShowsPosition address pool member poolState) :
    ¬ source.NoPosition address pool := by
  rw [← askPosition_finds_none_iff, askPosition_eq_ok_iff.mpr shown]
  simp

/--
Asking for a position fails otherwise exactly when a lookup does, unless there
is none.
-/
theorem askPosition_fails_iff :
    (∃ failure : InquiryError,
      failure.isPositionNotFound = false ∧
        (source.askPosition address pool).outcome = .error failure) ↔
      ¬ source.NoPosition address pool ∧
        source.LookupFails address pool := by
  constructor
  · rintro ⟨failure, known, failed⟩
    constructor
    · rw [← askPosition_finds_none_iff]
      rintro ⟨other, missing, otherFailed⟩
      cases failed.symm.trans otherFailed
      simp [known] at missing
    · rcases askPosition_eq_error_iff.mp failed with
        ⟨reason, lookup, rfl⟩ |
          ⟨_, _, ⟨reason, lookup, rfl⟩ | ⟨_, _, _, rfl⟩⟩
      · rw [InquiryError.isPositionNotFound_ofLookup] at known
        exact ⟨reason, known, .inl lookup⟩
      · rw [InquiryError.isPositionNotFound_ofLookup] at known
        exact ⟨reason, known, .inr lookup⟩
      · cases known
  · rintro ⟨position, reason, known, lookup⟩
    cases asked : (source.askPosition address pool).outcome with
    | error failure =>
        refine ⟨failure, Bool.eq_false_iff.mpr fun missing => ?_, rfl⟩
        exact position
          (askPosition_finds_none_iff.mp ⟨failure, missing, asked⟩)
    | ok found =>
        obtain ⟨⟨_, memberFound, _⟩, poolFound⟩ :=
          askPosition_eq_ok_iff.mp asked
        rcases lookup with failed | failed
        · cases memberFound.symm.trans failed
        · cases poolFound.symm.trans failed

/-- Asking for all pages joins them when they are all answered. -/
theorem askAllActions_eq_ok_iff :
    (source.askAllActions addresses limit).outcome = .ok actions ↔
      source.PagesEnd addresses limit (.ok actions) := by
  rw [outcome_askAllActions]
  simp only [Outcome.bind_eq_ok_iff, Outcome.pure_eq_ok,
    Except.ok.injEq]
  constructor
  · rintro ⟨first, answered, later, laterAnswered, rfl⟩
    exact .joined answered laterAnswered
  · intro ended
    cases ended with
    | joined answered laterAnswered =>
        exact ⟨_, answered, _, laterAnswered, rfl⟩

/-- Asking for all pages fails exactly when one of them does. -/
theorem askAllActions_fails_iff (paged : 0 < limit) :
    (∃ failure,
      (source.askAllActions addresses limit).outcome = .error failure) ↔
      source.PageFails addresses limit := by
  rw [outcome_askAllActions]
  simp only [Outcome.bind_eq_error_iff, Outcome.pure_eq_ok]
  constructor
  · rintro ⟨failure,
      failed | ⟨first, answered, failed | ⟨_, _, stop⟩⟩⟩
    · exact ⟨0, failure, .first, failed⟩
    · obtain ⟨offset, asked, reason, pageFailed⟩ :=
        Outcome.exists_mapM_error_iff.mp ⟨failure, failed⟩
      obtain ⟨page, positive, within, rfl⟩ :=
        (mem_laterOffsets paged).mp asked
      exact ⟨_, reason, .later answered positive within, pageFailed⟩
    · cases stop
  · rintro ⟨offset, reason, asked, failed⟩
    cases asked with
    | first =>
        exact ⟨reason, .inl failed⟩
    | later answered positive within =>
        obtain ⟨failure, stopped⟩ :=
          Outcome.exists_mapM_error_iff.mpr
            ⟨_, (mem_laterOffsets paged).mpr ⟨_, positive, within, rfl⟩,
              reason, failed⟩
        exact ⟨failure, .inr ⟨_, answered, .inl stopped⟩⟩

/--
A second contributes a failure only when it fails otherwise than by not being
known.
-/
theorem contribution_eq_error_iff
    {second : Second}
    {answer : Except SourceError PriceSample}
    {failure : SourceError} :
    contribution second answer = .error failure ↔
      failure.isNotFound = false ∧ answer = .error failure := by
  unfold contribution
  cases answer with
  | ok sample =>
      simp
  | error reason =>
      simp only [Except.error.injEq]
      cases known : reason.isNotFound with
      | true =>
          simp only [if_true, reduceCtorEq, false_iff]
          rintro ⟨unknown, rfl⟩
          simp [known] at unknown
      | false =>
          simp only [Bool.false_eq_true, if_false, Except.error.injEq]
          constructor
          · rintro rfl
            exact ⟨known, rfl⟩
          · exact And.right

/-- Asking for prices fails exactly when one of them does. -/
theorem askPrices_fails_iff :
    (∃ failure,
      (source.askPrices pool actions).outcome = .error failure) ↔
      source.PriceFails pool actions := by
  rw [outcome_askPrices]
  unfold gatherSamples
  simp only [Outcome.map_eq_error_iff, Outcome.exists_mapM_error_iff,
    List.mem_map]
  constructor
  · rintro ⟨_, ⟨second, asked, rfl⟩, failure, failed⟩
    obtain ⟨action, member, counted, rfl⟩ := mem_requestedSeconds.mp asked
    exact ⟨action, member, counted, failure,
      contribution_eq_error_iff.mp failed⟩
  · rintro ⟨action, member, counted, failure, failed⟩
    exact ⟨_,
      ⟨_, mem_requestedSeconds.mpr ⟨action, member, counted, rfl⟩, rfl⟩,
      failure, contribution_eq_error_iff.mpr failed⟩

/-- Prices are answered unless one of them fails. -/
theorem pricesAnswered_iff :
    source.PricesAnswered pool actions ↔
      ¬ source.PriceFails pool actions := by
  constructor
  · rintro answered ⟨action, member, counted, failure, known, failed⟩
    rcases answered action member counted with
      ⟨sample, answer⟩ | ⟨what, missing⟩
    · cases failed.symm.trans answer
    · cases failed.symm.trans missing
      cases known
  · intro unfailing action member counted
    cases answer : source.price pool action.date.second with
    | ok sample =>
        exact .inl ⟨sample, answer⟩
    | error failure =>
        cases unknown : failure.isNotFound with
        | true =>
            obtain ⟨what, rfl⟩ := SourceError.isNotFound_iff.mp unknown
            exact .inr ⟨what, answer⟩
        | false =>
            exact
              (unfailing
                ⟨action, member, counted, failure, unknown, answer⟩).elim

/-- Asking for prices gathers the samples of the seconds that are known. -/
theorem askPrices_eq_ok_iff {samples : List PriceSample} :
    (source.askPrices pool actions).outcome = .ok samples ↔
      source.PricesAnswered pool actions ∧
        samples =
          (requestedSeconds pool actions).filterMap
            (source.sampleAt? pool) := by
  have gathers :
      source.PricesAnswered pool actions →
        (source.askPrices pool actions).outcome =
          .ok ((requestedSeconds pool actions).filterMap
            (source.sampleAt? pool)) := by
    intro answered
    refine outcome_askPrices_of_answers fun second asked => ?_
    obtain ⟨action, member, counted, rfl⟩ := mem_requestedSeconds.mp asked
    exact (answered action member counted).elim answers_of_knows
      answers_of_lacks
  constructor
  · intro gathered
    have answered : source.PricesAnswered pool actions := by
      rw [pricesAnswered_iff, ← askPrices_fails_iff, gathered]
      simp
    exact ⟨answered, Except.ok.inj (gathered.symm.trans (gathers answered))⟩
  · rintro ⟨answered, rfl⟩
    exact gathers answered

/-- What was gathered has returns when they can be computed. -/
theorem ofGathered_eq_ok_iff
    {member : MemberPool}
    {poolState : PoolState}
    {samples : List PriceSample}
    {returns : PositionReturns} :
    PositionReturns.ofGathered address member poolState actions samples =
        .ok returns ↔
      ∃ summary,
        computeReturns member.position poolState actions
            (.ofSamples samples) =
          .ok summary ∧
        { address, member, poolState
          actionsFetched := actions.length
          priceSamples := samples.length
          summary } = returns := by
  unfold PositionReturns.ofGathered
  simp only [Outcome.bind_eq_ok_iff, Outcome.mapError_eq_ok_iff,
    Outcome.pure_eq_ok, Except.ok.injEq]

theorem ofGathered_eq_error_iff
    {member : MemberPool}
    {poolState : PoolState}
    {samples : List PriceSample}
    {failure : InquiryError} :
    PositionReturns.ofGathered address member poolState actions samples =
        .error failure ↔
      ∃ reason,
        computeReturns member.position poolState actions
            (.ofSamples samples) =
          .error reason ∧
        InquiryError.computation reason = failure := by
  unfold PositionReturns.ofGathered
  simp only [Outcome.bind_eq_error_iff, Outcome.mapError_eq_error_iff,
    Outcome.pure_eq_ok, reduceCtorEq, and_false, exists_false, or_false]

/-- An inquiry that succeeds has the returns of everything that was gathered. -/
theorem summary_of_positionReturns
    {summary : ReturnSummary} :
    (∃ returns,
      (source.positionReturns config address pool).outcome =
          .ok returns ∧
        returns.summary = summary) ↔
      ∃ member poolState actions,
        source.Gathered config address pool member poolState actions ∧
          computeReturns member.position poolState actions
              (source.gatheredHistory pool actions) =
            .ok summary := by
  rw [outcome_positionReturns]
  simp only [Outcome.bind_eq_ok_iff, Outcome.mapError_eq_ok_iff,
    Prod.exists, askPosition_eq_ok_iff, askAllActions_eq_ok_iff,
    askPrices_eq_ok_iff, ofGathered_eq_ok_iff]
  constructor
  · rintro ⟨_, ⟨member, poolState, shown, actions, listed, _,
      ⟨priced, rfl⟩, computedSummary, computed, rfl⟩, rfl⟩
    exact ⟨member, poolState, actions, ⟨shown, listed, priced⟩,
      computed⟩
  · rintro ⟨member, poolState, actions, ⟨shown, listed, priced⟩,
      computed⟩
    exact ⟨_, ⟨member, poolState, shown, actions, listed, _,
      ⟨priced, rfl⟩, summary, computed, rfl⟩, rfl⟩

/-- An inquiry finds no position exactly when there is none. -/
theorem positionReturns_finds_none_iff (config : Config) :
    (∃ failure : InquiryError,
      failure.isPositionNotFound = true ∧
        (source.positionReturns config address pool).outcome =
          .error failure) ↔
      source.NoPosition address pool := by
  rw [← askPosition_finds_none_iff, outcome_positionReturns]
  simp only [Outcome.bind_eq_error_iff, Outcome.mapError_eq_error_iff,
    ofGathered_eq_error_iff]
  constructor
  · rintro ⟨failure, missing, failed |
      ⟨_, _, ⟨_, _, rfl⟩ |
        ⟨_, _, ⟨_, _, rfl⟩ | ⟨_, _, _, _, rfl⟩⟩⟩⟩
    · exact ⟨failure, missing, failed⟩
    · cases missing
    · cases missing
    · cases missing
  · rintro ⟨failure, missing, failed⟩
    exact ⟨failure, missing, .inl failed⟩

/--
An inquiry fails otherwise exactly when one of its stages does, unless there is
no position.
-/
theorem positionReturns_fails_iff
    (paged : 0 < config.actionsPageLimit) :
    (∃ failure : InquiryError,
      failure.isPositionNotFound = false ∧
        (source.positionReturns config address pool).outcome =
          .error failure) ↔
      ¬ source.NoPosition address pool ∧
        source.InquiryFails config address pool := by
  rw [outcome_positionReturns]
  simp only [Outcome.bind_eq_error_iff, Outcome.mapError_eq_error_iff,
    Outcome.mapError_eq_ok_iff, Prod.exists, askPosition_eq_ok_iff,
    askAllActions_eq_ok_iff, askPrices_eq_ok_iff, ofGathered_eq_error_iff]
  constructor
  · rintro ⟨failure, known, failed |
      ⟨member, poolState, shown, ⟨reason, failed, rfl⟩ |
        ⟨actions, listed, ⟨reason, failed, rfl⟩ |
          ⟨_, ⟨priced, rfl⟩, reason, failed, rfl⟩⟩⟩⟩
    · obtain ⟨position, lookup⟩ :=
        askPosition_fails_iff.mp ⟨failure, known, failed⟩
      exact ⟨position, .lookup lookup⟩
    · exact ⟨shown.not_noPosition,
        .page shown ((askAllActions_fails_iff paged).mp ⟨reason, failed⟩)⟩
    · exact ⟨shown.not_noPosition,
        .price shown listed (askPrices_fails_iff.mp ⟨reason, failed⟩)⟩
    · exact ⟨shown.not_noPosition,
        .computation ⟨shown, listed, priced⟩ failed⟩
  · rintro ⟨position, failed⟩
    cases failed with
    | lookup lookup =>
        obtain ⟨failure, known, failed⟩ :=
          askPosition_fails_iff.mpr ⟨position, lookup⟩
        exact ⟨failure, known, .inl failed⟩
    | page shown failed =>
        obtain ⟨reason, stopped⟩ :=
          (askAllActions_fails_iff paged).mpr failed
        exact ⟨_, rfl,
          .inr ⟨_, _, shown, .inl ⟨reason, stopped, rfl⟩⟩⟩
    | price shown listed failed =>
        obtain ⟨reason, stopped⟩ := askPrices_fails_iff.mpr failed
        exact ⟨_, rfl,
          .inr ⟨_, _, shown,
            .inr ⟨_, listed, .inl ⟨reason, stopped, rfl⟩⟩⟩⟩
    | computation gathered failed =>
        exact ⟨_, rfl,
          .inr ⟨_, _, gathered.shown,
            .inr ⟨_, gathered.listed,
              .inr ⟨_, ⟨gathered.priced, rfl⟩, _, failed, rfl⟩⟩⟩⟩

end DataSource

end LiquidityReturns
