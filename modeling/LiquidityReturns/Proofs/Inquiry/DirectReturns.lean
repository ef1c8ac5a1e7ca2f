import Mathlib
import LiquidityReturns.Proofs.Inquiry.GatheredPrices
import LiquidityReturns.Proofs.Inquiry.Paging
import LiquidityReturns.Proofs.Returns.PricesUsed

namespace LiquidityReturns

/-!
# Inquiries compute on the records themselves

An inquiry sees the records of a fixture through pages of actions and answers
for single seconds.  `Fixture.directReturns` computes on the records at once:
on all actions, and on the history of all samples of the pool.  Both have the
same result or the same failure, for every page size and every limit on the
questions under way.
-/

namespace Fixture

/-- The first record of an address for a pool. -/
def memberIn?
    (fixture : Fixture)
    (address : Address)
    (pool : Asset) :
    Option MemberPool :=
  (fixture.members.find? fun entry =>
    entry.1 = address ∧ entry.2.position.pool = pool).map Prod.snd

/-- All samples of a pool. -/
def samplesOf (fixture : Fixture) (pool : Asset) : List PriceSample :=
  (fixture.prices.filter fun entry => entry.1 = pool).map Prod.snd

/-- The seconds of actions that count for which the pool has a sample. -/
def pricedSeconds (fixture : Fixture) (pool : Asset) : Finset Second :=
  ((fixture.actions.filter fun action =>
      action.counts pool ∧
        ∃ sample ∈ fixture.samplesOf pool,
          sample.second = action.date.second).map
    fun action => action.date.second).toFinset

/-- The returns of a position computed on the records of a fixture. -/
def directReturns
    (fixture : Fixture)
    (address : Address)
    (pool : Asset) :
    Except InquiryError PositionReturns :=
  match fixture.memberIn? address pool, fixture.poolAt? pool with
  | some member, some poolState => do
      let summary ←
        (computeReturns member.position poolState fixture.actions
          (PriceHistory.ofSamples (fixture.samplesOf pool))).mapError
            .computation
      return {
        address
        member
        poolState
        actionsFetched := fixture.actions.length
        priceSamples := (fixture.pricedSeconds pool).card
        summary
      }
  | _, _ =>
      .error (.positionNotFound address pool)

/--
The first record of an address for a pool is the first among the records of the
address.
-/
theorem findMember?_membersAt
    (fixture : Fixture)
    (address : Address)
    (pool : Asset) :
    findMember? (fixture.membersAt address) pool =
      fixture.memberIn? address pool := by
  unfold findMember? membersAt memberIn?
  rw [List.find?_map, List.find?_filter]
  congr 2
  funext entry
  simp

/-- The record of an address for a pool is a record of that pool. -/
theorem pool_of_memberIn?
    {fixture : Fixture}
    {address : Address}
    {pool : Asset}
    {member : MemberPool}
    (found : fixture.memberIn? address pool = some member) :
    member.position.pool = pool := by
  obtain ⟨entry, first, rfl⟩ := Option.map_eq_some_iff.mp found
  have matching := List.find?_some first
  simp only [decide_eq_true_eq] at matching
  exact matching.2

/-- A fixture knows an address by its records, unless it has none. -/
theorem member_source_eq_ok_iff
    {fixture : Fixture}
    {address : Address}
    {members : List MemberPool} :
    fixture.source.member address = .ok members ↔
      fixture.membersAt address ≠ [] ∧
        members = fixture.membersAt address := by
  unfold source
  cases shape : fixture.membersAt address with
  | nil =>
      simp [shape]
  | cons first rest =>
      simp [shape, eq_comm]

/-- A fixture fails on an address only by not knowing it. -/
theorem member_source_eq_error
    {fixture : Fixture}
    {address : Address}
    {failure : SourceError}
    (failed : fixture.source.member address = .error failure) :
    fixture.membersAt address = [] ∧ failure.isNotFound = true := by
  unfold source at failed
  cases shape : fixture.membersAt address with
  | nil =>
      simp only [shape, Except.error.injEq] at failed
      exact ⟨rfl, by rw [← failed]; rfl⟩
  | cons first rest =>
      simp [shape] at failed

/-- A fixture knows a pool by its last state, if there is one. -/
theorem pool_source_eq_ok_iff
    {fixture : Fixture}
    {pool : Asset}
    {poolState : PoolState} :
    fixture.source.pool pool = .ok poolState ↔
      fixture.poolAt? pool = some poolState := by
  unfold source orNotFound
  cases shape : fixture.poolAt? pool <;> simp [shape]

/-- A fixture fails on a pool only by not knowing it. -/
theorem pool_source_eq_error
    {fixture : Fixture}
    {pool : Asset}
    {failure : SourceError}
    (failed : fixture.source.pool pool = .error failure) :
    fixture.poolAt? pool = none ∧ failure.isNotFound = true := by
  unfold source orNotFound at failed
  cases shape : fixture.poolAt? pool with
  | none =>
      simp only [shape, Except.error.injEq] at failed
      exact ⟨rfl, by rw [← failed]; rfl⟩
  | some state =>
      simp [shape] at failed

/-- A fixture shows the position of its first record in a pool that it knows. -/
theorem showsPosition_iff
    {fixture : Fixture}
    {address : Address}
    {pool : Asset}
    {member : MemberPool}
    {poolState : PoolState} :
    fixture.source.ShowsPosition address pool member poolState ↔
      fixture.memberIn? address pool = some member ∧
        fixture.poolAt? pool = some poolState := by
  rw [← findMember?_membersAt, ← pool_source_eq_ok_iff]
  constructor
  · rintro ⟨⟨members, found, first⟩, poolFound⟩
    obtain ⟨_, rfl⟩ := member_source_eq_ok_iff.mp found
    exact ⟨first, poolFound⟩
  · rintro ⟨first, poolFound⟩
    refine ⟨⟨_, member_source_eq_ok_iff.mpr ⟨?_, rfl⟩, first⟩,
      poolFound⟩
    intro unknown
    simp [unknown, findMember?] at first

/-- A fixture knows a second by its last sample in that second. -/
theorem priceAt?_eq_lastAt?
    (fixture : Fixture)
    (pool : Asset)
    (second : Second) :
    fixture.priceAt? pool second =
      PriceSample.lastAt? (fixture.samplesOf pool) second := by
  unfold priceAt? PriceSample.lastAt? samplesOf
  rw [← List.map_reverse, ← List.filter_reverse, List.find?_map,
    List.find?_filter]
  congr 2
  funext entry
  simp

/-- A fixture contributes its last sample in a second, or none. -/
theorem contribution_source
    (fixture : Fixture)
    (pool : Asset)
    (second : Second) :
    contribution second (fixture.source.price pool second) =
      .ok (PriceSample.lastAt? (fixture.samplesOf pool) second) := by
  have answer :
      fixture.source.price pool second =
        orNotFound s!"depth history {pool} at {second}"
          (PriceSample.lastAt? (fixture.samplesOf pool) second) := by
    rw [← priceAt?_eq_lastAt?]
    rfl
  rw [answer]
  cases found : PriceSample.lastAt? (fixture.samplesOf pool) second with
  | none =>
      rfl
  | some sample =>
      have same : sample.second = second := by
        simpa using List.find?_some found
      subst same
      rfl

theorem answers_source
    (fixture : Fixture)
    (pool : Asset)
    (second : Second) :
    fixture.source.Answers pool second :=
  ⟨_, fixture.contribution_source pool second⟩

theorem sampleAt?_source (fixture : Fixture) (pool : Asset) :
    fixture.source.sampleAt? pool =
      PriceSample.lastAt? (fixture.samplesOf pool) := by
  funext second
  simp [DataSource.sampleAt?, contribution_source]

/--
The history of all samples and that of the samples asked for agree on the
actions.
-/
theorem agreesOn_of_gathered
    {fixture : Fixture}
    {pool : Asset}
    {samples : List PriceSample}
    (gathered :
      samples.Perm
        ((requestedSeconds pool fixture.actions).filterMap
          (fixture.source.sampleAt? pool))) :
    (PriceHistory.ofSamples samples).AgreesOn
      (PriceHistory.ofSamples (fixture.samplesOf pool)) pool
      fixture.actions := by
  intro action member counted
  have asked :
      action.date.second ∈ requestedSeconds pool fixture.actions :=
    mem_requestedSeconds.mpr ⟨action, member, counted, rfl⟩
  have known :
      PriceSample.lastAt? samples action.date.second =
        PriceSample.lastAt? (fixture.samplesOf pool) action.date.second := by
    rw [PriceSample.lastAt?_of_gathered gathered asked, sampleAt?_source]
  constructor
  · rw [PriceHistory.inRune_ofSamples, PriceHistory.inRune_ofSamples, known]
  · rw [PriceHistory.inUsd_ofSamples, PriceHistory.inUsd_ofSamples, known]

/--
As many samples are gathered as there are seconds of actions that count and
have a sample.
-/
theorem length_of_gathered
    {fixture : Fixture}
    {pool : Asset}
    {samples : List PriceSample}
    (gathered :
      samples.Perm
        ((requestedSeconds pool fixture.actions).filterMap
          (fixture.source.sampleAt? pool))) :
    samples.length = (fixture.pricedSeconds pool).card := by
  have known :
      ∀ second,
        (PriceSample.lastAt? (fixture.samplesOf pool) second).isSome ↔
          ∃ sample ∈ fixture.samplesOf pool, sample.second = second := by
    intro second
    unfold PriceSample.lastAt?
    simp
  have seconds :
      fixture.pricedSeconds pool =
        ((requestedSeconds pool fixture.actions).filter fun second =>
          (PriceSample.lastAt? (fixture.samplesOf pool)
            second).isSome).toFinset := by
    ext second
    unfold pricedSeconds
    simp only [List.mem_toFinset, List.mem_map, List.mem_filter,
      mem_requestedSeconds, known, decide_eq_true_eq]
    constructor
    · rintro ⟨action, ⟨member, counted, sampled⟩, rfl⟩
      exact ⟨⟨action, member, counted, rfl⟩, sampled⟩
    · rintro ⟨⟨action, member, counted, rfl⟩, sampled⟩
      exact ⟨action, ⟨member, counted, sampled⟩, rfl⟩
  rw [gathered.length_eq, sampleAt?_source, seconds,
    List.toFinset_card_of_nodup ((nodup_requestedSeconds _ _).filter _),
    List.length_filterMap_eq_countP, List.countP_eq_length_filter]

/-- What was gathered has the returns that are computed directly. -/
theorem ofGathered_eq_directReturns
    {fixture : Fixture}
    {address : Address}
    {pool : Asset}
    {member : MemberPool}
    {poolState : PoolState}
    (memberFound : fixture.memberIn? address pool = some member)
    (poolFound : fixture.poolAt? pool = some poolState)
    {samples : List PriceSample}
    (gathered :
      samples.Perm
        ((requestedSeconds pool fixture.actions).filterMap
          (fixture.source.sampleAt? pool))) :
    PositionReturns.ofGathered address member poolState fixture.actions
        samples =
      fixture.directReturns address pool := by
  have inPool := pool_of_memberIn? memberFound
  have sameReturns :
      computeReturns member.position poolState fixture.actions
          (PriceHistory.ofSamples samples) =
        computeReturns member.position poolState fixture.actions
          (PriceHistory.ofSamples (fixture.samplesOf pool)) := by
    refine computeReturns_congr ?_ poolState
    rw [inPool]
    exact agreesOn_of_gathered gathered
  unfold PositionReturns.ofGathered directReturns
  rw [memberFound, poolFound, length_of_gathered gathered, sameReturns]

/-- Without a record or without a state of the pool there is no position. -/
theorem directReturns_of_unknown
    {fixture : Fixture}
    {address : Address}
    {pool : Asset}
    (unknown :
      fixture.memberIn? address pool = none ∨
        fixture.poolAt? pool = none) :
    fixture.directReturns address pool =
      .error (.positionNotFound address pool) := by
  unfold directReturns
  rcases unknown with noMember | noPool
  · simp [noMember]
  · cases found : fixture.memberIn? address pool <;> simp [noPool]

/-- A source that does not know a member or a pool shows no position. -/
theorem ofLookup_of_isNotFound
    {failure : SourceError}
    (unknown : failure.isNotFound = true)
    (address : Address)
    (pool : Asset) :
    InquiryError.ofLookup address pool failure =
      .positionNotFound address pool := by
  simp [InquiryError.ofLookup, unknown]

/--
Asking a fixture for a position finds its first record in a pool that it knows.
-/
theorem outcome_askPosition
    (fixture : Fixture)
    (address : Address)
    (pool : Asset) :
    (fixture.source.askPosition address pool).outcome =
      match fixture.memberIn? address pool, fixture.poolAt? pool with
      | some member, some poolState =>
          .ok (member, poolState)
      | _, _ =>
          .error (.positionNotFound address pool) := by
  rw [DataSource.outcome_askPosition, ← findMember?_membersAt]
  cases memberAnswer : fixture.source.member address with
  | error failure =>
      obtain ⟨unknown, notFound⟩ := member_source_eq_error memberAnswer
      rw [unknown]
      simp [Except.mapError, ofLookup_of_isNotFound notFound, findMember?]
  | ok members =>
      obtain ⟨_, rfl⟩ := member_source_eq_ok_iff.mp memberAnswer
      cases poolAnswer : fixture.source.pool pool with
      | error failure =>
          obtain ⟨unknown, notFound⟩ := pool_source_eq_error poolAnswer
          simp [Except.mapError, ofLookup_of_isNotFound notFound, unknown]
      | ok poolState =>
          rw [pool_source_eq_ok_iff.mp poolAnswer]
          simp only [Except.mapError, Outcome.ok_bind]
          cases findMember? (fixture.membersAt address) pool <;> rfl

/-- An inquiry of a fixture ends with the returns that are computed directly. -/
theorem outcome_positionReturns
    (fixture : Fixture)
    {config : Config}
    (paged : 0 < config.actionsPageLimit)
    (address : Address)
    (pool : Asset) :
    (fixture.source.positionReturns config address pool).outcome =
      fixture.directReturns address pool := by
  have answers :
      ∀ second ∈ requestedSeconds pool fixture.actions,
        fixture.source.Answers pool second :=
    fun second _ => fixture.answers_source pool second
  rw [DataSource.outcome_positionReturns, outcome_askPosition]
  cases memberFound : fixture.memberIn? address pool with
  | none =>
      rw [directReturns_of_unknown (.inl memberFound)]
      rfl
  | some member =>
      cases poolFound : fixture.poolAt? pool with
      | none =>
          rw [directReturns_of_unknown (.inr poolFound)]
          rfl
      | some poolState =>
          simp only [Outcome.ok_bind]
          rw [fixture.outcome_askAllActions _ paged, Except.mapError,
            Outcome.ok_bind,
            DataSource.outcome_askPrices_of_answers answers, Except.mapError,
            Outcome.ok_bind]
          exact ofGathered_eq_directReturns memberFound poolFound
            (List.Perm.refl _)

/--
However the answers of a fixture come, an inquiry ends with the returns that
are computed directly.
-/
theorem eq_directReturns_of_returnsEnd
    {fixture : Fixture}
    {config : Config}
    (paged : 0 < config.actionsPageLimit)
    {address : Address}
    {pool : Asset}
    {outcome : Except InquiryError PositionReturns}
    (ended : fixture.source.ReturnsEnd config address pool outcome) :
    outcome = fixture.directReturns address pool := by
  cases ended with
  | memberFailed failed =>
      obtain ⟨unknown, notFound⟩ := member_source_eq_error failed
      rw [directReturns_of_unknown, ofLookup_of_isNotFound notFound]
      rw [← findMember?_membersAt, unknown]
      exact .inl rfl
  | poolFailed failed =>
      obtain ⟨unknown, notFound⟩ := pool_source_eq_error failed
      rw [directReturns_of_unknown (.inr unknown),
        ofLookup_of_isNotFound notFound]
  | noPosition memberFound poolFound absent =>
      obtain ⟨_, rfl⟩ := member_source_eq_ok_iff.mp memberFound
      rw [findMember?_membersAt] at absent
      rw [directReturns_of_unknown (.inl absent)]
  | pagesFailed shown pages =>
      cases (fixture.pagesEnd_iff _ paged _).mp pages
  | pricesFailed shown pages prices =>
      obtain ⟨second, _, failed⟩ := prices.failure
      rw [contribution_source] at failed
      cases failed
  | gathered shown pages prices =>
      cases (fixture.pagesEnd_iff _ paged _).mp pages
      obtain ⟨memberFound, poolFound⟩ := showsPosition_iff.mp shown
      exact ofGathered_eq_directReturns memberFound poolFound
        prices.samples.1

/-- With room for one question, an inquiry of a fixture can end. -/
theorem exists_returnsEnd
    (fixture : Fixture)
    {config : Config}
    (paged : 0 < config.actionsPageLimit)
    (concurrent : 0 < config.priceFetchConcurrency)
    (address : Address)
    (pool : Asset) :
    ∃ outcome, fixture.source.ReturnsEnd config address pool outcome := by
  cases memberAnswer : fixture.source.member address with
  | error failure =>
      exact ⟨_, .memberFailed memberAnswer⟩
  | ok members =>
      cases poolAnswer : fixture.source.pool pool with
      | error failure =>
          exact ⟨_, .poolFailed poolAnswer⟩
      | ok poolState =>
          cases found : findMember? members pool with
          | none =>
              exact ⟨_, .noPosition memberAnswer poolAnswer found⟩
          | some member =>
              have pages :=
                (fixture.pagesEnd_iff (member.actionAddresses address) paged
                  _).mpr rfl
              obtain ⟨prices, pricesEnd⟩ :=
                PriceQueue.exists_ends fixture.source pool concurrent
                  (.start (requestedSeconds pool fixture.actions))
              have shown :
                  fixture.source.ShowsPosition address pool member
                    poolState :=
                ⟨⟨members, memberAnswer, found⟩, poolAnswer⟩
              cases prices with
              | error failure =>
                  exact ⟨_, .pricesFailed shown pages pricesEnd⟩
              | ok samples =>
                  exact ⟨_, .gathered shown pages pricesEnd⟩

end Fixture

/--
For every page size and every limit on the questions under way, an inquiry
ends with the returns that are computed directly on the records, and so does
every order in which the answers may come.
-/
theorem positionReturns_eq_directReturns
    (fixture : Fixture)
    {config : Config}
    (paged : 1 ≤ config.actionsPageLimit)
    (concurrent : 1 ≤ config.priceFetchConcurrency)
    (address : Address)
    (pool : Asset) :
    (fixture.source.positionReturns config address pool).outcome =
        fixture.directReturns address pool ∧
      ∀ outcome,
        fixture.source.ReturnsEnd config address pool outcome ↔
          outcome = fixture.directReturns address pool := by
  refine ⟨fixture.outcome_positionReturns paged address pool, ?_⟩
  intro outcome
  constructor
  · exact Fixture.eq_directReturns_of_returnsEnd paged
  · rintro rfl
    obtain ⟨reached, ended⟩ :=
      fixture.exists_returnsEnd paged concurrent address pool
    rwa [Fixture.eq_directReturns_of_returnsEnd paged ended] at ended

namespace Sample

/-- The member of the sample position. -/
def address : Address :=
  ⟨"thor1member"⟩

/-- A member's record of the sample position. -/
def member : MemberPool where
  position := position
  runeAddress := some address
  assetAddress := none
  runeAdded := .zero
  assetAdded := .zero
  runeWithdrawn := .zero
  assetWithdrawn := .zero

/--
Records with three actions, and with prices for the two seconds of these and
for one more.
-/
def fixture : Fixture where
  members := [(address, member)]
  pools := [(pool, state)]
  actions := [addition, withdrawal, laterAddition]
  prices :=
    [(pool, ⟨⟨3⟩, .one, .one⟩), (pool, ⟨⟨1⟩, .one, .one⟩)] ++
      samples.map fun sample => (pool, sample)

/-- Pages of two actions, and one question at a time. -/
def config : Config where
  port := 8080
  midgardApiUrl := Config.defaultMidgardApiUrl
  actionsPageLimit := 2
  priceFetchConcurrency := 1
  requestTimeoutSecs := 30

end Sample

/--
Three actions on two pages and two seconds out of three have the returns of all
records.
-/
theorem positionReturns_eq_directReturns_sample :
    1 ≤ Sample.config.actionsPageLimit ∧
    1 ≤ Sample.config.priceFetchConcurrency ∧
    (Sample.fixture.source.positionReturns Sample.config Sample.address
        Sample.pool).outcome =
      Sample.fixture.directReturns Sample.address Sample.pool ∧
    (∀ outcome,
      Sample.fixture.source.ReturnsEnd Sample.config Sample.address
          Sample.pool outcome ↔
        outcome =
          Sample.fixture.directReturns Sample.address Sample.pool) ∧
    ∃ returns,
      Sample.fixture.directReturns Sample.address Sample.pool =
        .ok returns ∧
      returns.actionsFetched = 3 ∧ returns.priceSamples = 2 := by
  have paged : 1 ≤ Sample.config.actionsPageLimit := by
    decide
  have concurrent : 1 ≤ Sample.config.priceFetchConcurrency := by
    decide
  obtain ⟨inOrder, inAnyOrder⟩ :=
    positionReturns_eq_directReturns Sample.fixture paged concurrent
      Sample.address Sample.pool
  have counts :
      (Sample.fixture.directReturns Sample.address Sample.pool).toOption.map
          (fun returns => (returns.actionsFetched, returns.priceSamples)) =
        some (3, 2) := by
    decide +kernel
  obtain ⟨returns, found⟩ :=
    Outcome.exists_of_toOption_isSome
      (show (Sample.fixture.directReturns Sample.address
        Sample.pool).toOption.isSome = true by decide +kernel)
  rw [found] at counts
  exact ⟨paged, concurrent, inOrder, inAnyOrder, returns, found,
    by simpa [Except.toOption] using counts⟩

end LiquidityReturns
