import Mathlib
import LiquidityReturns.Proofs.Inquiry.DirectReturns
import LiquidityReturns.Proofs.Inquiry.InquiryOutcome
import LiquidityReturns.Service.Routes

namespace LiquidityReturns

/-!
# The status of an answer about returns

The question for returns has four kinds of answer.  It is refused when it lacks
an address or a pool; there is nothing to be found when there is no position;
it fails when a stage of the inquiry, the computation or the report does; and
otherwise it is answered with a summary and its report.
-/

/-- An accepted configuration has a positive number where one is needed. -/
theorem Config.readPositive_pos
    {environment : Environment}
    {name : String}
    {default number : ℕ}
    (read : readPositive environment name default = .ok number)
    (positive : 0 < default) :
    0 < number := by
  unfold readPositive at read
  split at read
  · cases read
    exact positive
  · dsimp only at read
    split at read
    · split at read
      · cases read
        assumption
      · cases read
    · cases read

/-- Pages have room for an action in an accepted configuration. -/
theorem Config.actionsPageLimit_pos
    {environment : Environment}
    {config : Config}
    (accepted : ofEnvironment environment = .ok config) :
    0 < config.actionsPageLimit := by
  unfold ofEnvironment at accepted
  simp only [Outcome.bind_eq_ok_iff, Outcome.pure_eq_ok,
    Except.ok.injEq] at accepted
  obtain ⟨_, _, _, _, limit, read, _, _, _, _, rfl⟩ := accepted
  exact readPositive_pos read (by decide)

namespace DataSource

/-- The returns can be computed, but they cannot be reported. -/
def ReportFails
    (source : DataSource)
    (config : Config)
    (address : Address)
    (pool : Asset) : Prop :=
  ∃ member poolState actions summary failure,
    source.Gathered config address pool member poolState actions ∧
      computeReturns member.position poolState actions
          (source.gatheredHistory pool actions) =
        .ok summary ∧
      PositionReport.ofSummary summary = .error failure

/--
An answer whose summary is computed on what was gathered, and whose report is
that of the summary.
-/
def Supports
    (source : DataSource)
    (config : Config)
    (answer : Service.ReturnsAnswer) : Prop :=
  ∃ member poolState actions,
    source.Gathered config answer.address answer.pool member poolState
        actions ∧
      computeReturns member.position poolState actions
          (source.gatheredHistory answer.pool actions) =
        .ok answer.summary ∧
      PositionReport.ofSummary answer.summary = .ok answer.report

end DataSource

namespace Service

/--
A value is missing, or nothing is left of it without the blanks around it.
-/
def Lacking (value : Option String) : Prop :=
  ∀ padded, value = some padded → Text.trim padded = ""

/-- What is left of a value without the blanks around it, if anything is. -/
def Gives (value : Option String) (text : String) : Prop :=
  text ≠ "" ∧ ∃ padded, value = some padded ∧ Text.trim padded = text

/-- A required value is what is left of it. -/
theorem required_eq_ok_iff
    {name : String}
    {value : Option String}
    {text : String} :
    required name value = .ok text ↔ Gives value text := by
  unfold required Gives
  cases value with
  | none =>
      simp
  | some padded =>
      simp only [Option.map_some, Option.some.injEq, exists_eq_left',
        String.isEmpty_iff]
      split
      · rename_i empty
        simp [empty, eq_comm]
      · rename_i left
        simp only [Except.ok.injEq]
        constructor
        · rintro rfl
          exact ⟨left, rfl⟩
        · exact And.right

/-- A required value that is lacking is refused by its name. -/
theorem required_of_lacking
    {value : Option String}
    (lacking : Lacking value)
    (name : String) :
    required name value =
      .error (.badRequest s!"{name} is required") := by
  unfold required
  cases value with
  | none =>
      rfl
  | some padded =>
      simp [lacking padded rfl]

/-- A value is lacking or gives a text, but not both. -/
theorem exists_gives_iff {value : Option String} :
    (∃ text, Gives value text) ↔ ¬ Lacking value := by
  unfold Gives Lacking
  cases value <;> simp

namespace ReturnsQuery

/--
A query names an address and a pool: the texts that are left without the blanks
around them.
-/
structure Names
    (query : ReturnsQuery)
    (address : Address)
    (pool : Asset) : Prop where
  address : Gives query.address address.text
  pool : Gives query.pool pool.name

/-- The first of the two values that a query lacks, by its name. -/
inductive FirstLacks (query : ReturnsQuery) : String → Prop where
  | address
      (lacking : Lacking query.address) :
      FirstLacks query "address"
  | pool
      (given : ¬ Lacking query.address)
      (lacking : Lacking query.pool) :
      FirstLacks query "pool"

/-- A query lacks one of the two values, or it names an address and a pool. -/
theorem firstLacks_or_names (query : ReturnsQuery) :
    (∃ name, query.FirstLacks name) ∨
      ∃ address pool, query.Names address pool := by
  by_cases noAddress : Lacking query.address
  · exact .inl ⟨_, .address noAddress⟩
  · by_cases noPool : Lacking query.pool
    · exact .inl ⟨_, .pool noAddress noPool⟩
    · obtain ⟨address, addressGiven⟩ := exists_gives_iff.mpr noAddress
      obtain ⟨pool, poolGiven⟩ := exists_gives_iff.mpr noPool
      exact .inr ⟨⟨address⟩, ⟨pool⟩, addressGiven, poolGiven⟩

end ReturnsQuery

/-- Only the lack of a position counts as not found. -/
theorem Failure.ofInquiry_eq (failure : InquiryError) :
    ofInquiry failure =
      if failure.isPositionNotFound then
        .notFound failure.message
      else
        .internal failure.message := by
  cases failure <;> rfl

variable
  {source : DataSource}
  {config : Config}
  {query : ReturnsQuery}
  {address : Address}
  {pool : Asset}

/--
A query that lacks a value is refused by the name of the first, and nothing is
asked.
-/
theorem answerReturns_of_firstLacks
    {name : String}
    (lacks : query.FirstLacks name)
    (source : DataSource)
    (config : Config) :
    answerReturns source config query =
      .ofExcept (.error (.badRequest s!"{name} is required")) := by
  unfold answerReturns
  cases lacks with
  | address lacking =>
      rw [required_of_lacking lacking]
      rfl
  | pool given lacking =>
      obtain ⟨text, found⟩ := exists_gives_iff.mpr given
      rw [required_eq_ok_iff.mpr found, required_of_lacking lacking]
      rfl

/--
A query that names an address and a pool is answered with the returns of the
position and their report.
-/
theorem outcome_answerReturns_of_names
    (named : query.Names address pool) :
    (answerReturns source config query).outcome = (do
      let returns ←
        (source.positionReturns config address pool).outcome.mapError
          Failure.ofInquiry
      let report ←
        (PositionReport.ofSummary returns.summary).mapError
          fun failure => Failure.internal failure.message
      return { address, pool, summary := returns.summary, report }) := by
  unfold answerReturns
  rw [required_eq_ok_iff.mpr named.address,
    required_eq_ok_iff.mpr named.pool]
  simp only [Traced.outcome_bind, Traced.outcome_ofExcept,
    Traced.outcome_mapError, Traced.outcome_pure, Outcome.ok_bind]

/-- A query is refused exactly when it lacks the address or the pool. -/
theorem answerReturns_badRequest_iff :
    (∃ message,
      (answerReturns source config query).outcome =
        .error (.badRequest message)) ↔
      ∃ name, query.FirstLacks name := by
  constructor
  · rintro ⟨message, refused⟩
    rcases query.firstLacks_or_names with lacks | ⟨address, pool, named⟩
    · exact lacks
    · rw [outcome_answerReturns_of_names named] at refused
      simp only [Outcome.bind_eq_error_iff, Outcome.mapError_eq_error_iff,
        Outcome.pure_eq_ok] at refused
      rcases refused with
        ⟨failure, _, shape⟩ |
          ⟨_, _, ⟨_, _, shape⟩ | ⟨_, _, stop⟩⟩
      · cases failure <;> cases shape
      · cases shape
      · cases stop
  · rintro ⟨name, lacks⟩
    rw [answerReturns_of_firstLacks lacks]
    exact ⟨_, rfl⟩

/-- A query that is not refused names an address and a pool. -/
theorem names_of_outcome
    {outcome : Except Failure ReturnsAnswer}
    (reached : (answerReturns source config query).outcome = outcome)
    (unrefused : ∀ message, outcome ≠ .error (.badRequest message)) :
    ∃ address pool, query.Names address pool := by
  rcases query.firstLacks_or_names with lacks | named
  · obtain ⟨message, refused⟩ := answerReturns_badRequest_iff.mpr lacks
    exact (unrefused message (reached.symm.trans refused)).elim
  · exact named

/-- A named position is not found exactly when there is none. -/
theorem answerReturns_notFound_iff
    (named : query.Names address pool) :
    (∃ message,
      (answerReturns source config query).outcome =
        .error (.notFound message)) ↔
      source.NoPosition address pool := by
  rw [outcome_answerReturns_of_names named,
    ← DataSource.positionReturns_finds_none_iff config]
  simp only [Outcome.bind_eq_error_iff, Outcome.mapError_eq_error_iff,
    Outcome.pure_eq_ok, Failure.ofInquiry_eq]
  constructor
  · rintro ⟨message, ⟨failure, failed, shape⟩ |
      ⟨_, _, ⟨_, _, shape⟩ | ⟨_, _, stop⟩⟩⟩
    · cases missing : failure.isPositionNotFound with
      | true =>
          exact ⟨failure, missing, failed⟩
      | false =>
          simp [missing] at shape
    · cases shape
    · cases stop
  · rintro ⟨failure, missing, failed⟩
    exact ⟨failure.message, .inl ⟨failure, failed, by simp [missing]⟩⟩

/--
An answer about a named position fails exactly when the inquiry or the report
does.
-/
theorem answerReturns_internal_iff
    (paged : 0 < config.actionsPageLimit)
    (named : query.Names address pool) :
    (∃ message,
      (answerReturns source config query).outcome =
        .error (.internal message)) ↔
      ¬ source.NoPosition address pool ∧
        (source.InquiryFails config address pool ∨
          source.ReportFails config address pool) := by
  rw [outcome_answerReturns_of_names named]
  simp only [Outcome.bind_eq_error_iff, Outcome.mapError_eq_error_iff,
    Outcome.mapError_eq_ok_iff, Outcome.pure_eq_ok, Failure.ofInquiry_eq]
  constructor
  · rintro ⟨message, ⟨failure, failed, shape⟩ |
      ⟨returns, found, ⟨failure, unreported, _⟩ | ⟨_, _, stop⟩⟩⟩
    · cases known : failure.isPositionNotFound with
      | true =>
          simp [known] at shape
      | false =>
          obtain ⟨position, fails⟩ :=
            (DataSource.positionReturns_fails_iff paged).mp
              ⟨failure, known, failed⟩
          exact ⟨position, .inl fails⟩
    · obtain ⟨member, poolState, actions, gathered, computed⟩ :=
        DataSource.summary_of_positionReturns.mp ⟨returns, found, rfl⟩
      exact ⟨gathered.shown.not_noPosition,
        .inr ⟨member, poolState, actions, returns.summary, failure,
          gathered, computed, unreported⟩⟩
    · cases stop
  · rintro ⟨position, fails |
      ⟨member, poolState, actions, summary, failure, gathered, computed,
        unreported⟩⟩
    · obtain ⟨failure, known, failed⟩ :=
        (DataSource.positionReturns_fails_iff paged).mpr ⟨position, fails⟩
      exact ⟨failure.message, .inl ⟨failure, failed, by simp [known]⟩⟩
    · obtain ⟨returns, found, rfl⟩ :=
        DataSource.summary_of_positionReturns.mpr
          ⟨member, poolState, actions, gathered, computed⟩
      exact ⟨failure.message,
        .inr ⟨returns, found, .inl ⟨failure, unreported, rfl⟩⟩⟩

/-- A named position is answered with what its source supports. -/
theorem answerReturns_eq_ok_iff
    (named : query.Names address pool)
    {answer : ReturnsAnswer} :
    (answerReturns source config query).outcome = .ok answer ↔
      answer.address = address ∧ answer.pool = pool ∧
        source.Supports config answer := by
  rw [outcome_answerReturns_of_names named]
  simp only [Outcome.bind_eq_ok_iff, Outcome.mapError_eq_ok_iff,
    Outcome.pure_eq_ok, Except.ok.injEq]
  constructor
  · rintro ⟨returns, found, report, reported, rfl⟩
    obtain ⟨member, poolState, actions, gathered, computed⟩ :=
      DataSource.summary_of_positionReturns.mp ⟨returns, found, rfl⟩
    exact ⟨rfl, rfl, member, poolState, actions, gathered, computed,
      reported⟩
  · rintro ⟨rfl, rfl, member, poolState, actions, gathered, computed,
      reported⟩
    obtain ⟨returns, found, summarized⟩ :=
      DataSource.summary_of_positionReturns.mpr
        ⟨member, poolState, actions, gathered, computed⟩
    exact ⟨returns, found, answer.report, summarized ▸ reported,
      by rw [summarized]⟩

/-- The response that an outcome leads to. -/
def responseTo : Except Failure ReturnsAnswer → Response
  | .error failure =>
      failure.response
  | .ok answer =>
      .ofDocument 200 answer.toJson

/--
The response to a question for returns is that of its outcome, to be read from
anywhere.
-/
theorem Deployment.answer_returns
    {deployment : Deployment}
    {text : String}
    (decoded :
      ReturnsQuery.ofPairs (Web.Form.decode text.toList) = .ok query) :
    deployment.answer
        { method := .get, path := "/v1/returns", query := text } =
      (responseTo
        (answerReturns deployment.source deployment.config
          query).outcome).shared := by
  have route : Route.ofPath? "/v1/returns" = some .returns := by
    decide +kernel
  unfold answer
  simp only [route, respond, read, answerQuery, decoded, reduceCtorEq,
    if_false]
  cases (answerReturns deployment.source deployment.config query).outcome <;>
    rfl

/-- The status of a response tells the kind of its outcome. -/
theorem status_responseTo (outcome : Except Failure ReturnsAnswer) :
    ((responseTo outcome).status = 400 ↔
      ∃ message, outcome = .error (.badRequest message)) ∧
    ((responseTo outcome).status = 404 ↔
      ∃ message, outcome = .error (.notFound message)) ∧
    ((responseTo outcome).status = 500 ↔
      ∃ message, outcome = .error (.internal message)) ∧
    ((responseTo outcome).status = 200 ↔
      ∃ answer, outcome = .ok answer) ∧
    (responseTo outcome).status ∈ [400, 404, 500, 200] := by
  rcases outcome with (_ | _ | _) | _ <;>
    simp [responseTo, Failure.response, Failure.status,
      Response.ofDocument]

end Service

open Service

/--
Every question for returns is answered in one of four ways.

It is refused exactly when it lacks the address or else the pool, by the name
of the first, and nothing is asked; otherwise it is not found exactly when
there is no position, which only the two lookups decide; otherwise it fails
exactly when a lookup, a page, a price, the computation or the report does; and
otherwise it is answered with the trimmed address and pool, the summary
computed on what was gathered, and the report of that summary.
-/
theorem returns_answered_in_one_of_four_ways
    {environment : Environment}
    {deployment : Deployment}
    (accepted :
      Config.ofEnvironment environment = .ok deployment.config)
    {text : String}
    {query : ReturnsQuery}
    (decoded :
      ReturnsQuery.ofPairs (Web.Form.decode text.toList) = .ok query) :
    let source := deployment.source
    let config := deployment.config
    let response :=
      deployment.answer
        { method := .get, path := "/v1/returns", query := text }
    response.status ∈ [400, 404, 500, 200] ∧
    (response.status = 400 ↔ ∃ name, query.FirstLacks name) ∧
    (∀ name,
      query.FirstLacks name →
        response.body =
            .document
              (.record [("error", .string s!"{name} is required")]) ∧
          (answerReturns source config query).calls = []) ∧
    (response.status = 404 ↔
      ∃ address pool,
        query.Names address pool ∧ source.NoPosition address pool) ∧
    (response.status = 500 ↔
      ∃ address pool,
        query.Names address pool ∧ ¬ source.NoPosition address pool ∧
          (source.InquiryFails config address pool ∨
            source.ReportFails config address pool)) ∧
    (response.status = 200 ↔
      ∃ answer : ReturnsAnswer,
        query.Names answer.address answer.pool ∧
          source.Supports config answer) ∧
    ∀ answer : ReturnsAnswer,
      query.Names answer.address answer.pool →
        source.Supports config answer →
          response.body = .document answer.toJson := by
  intro source config response
  have paged := Config.actionsPageLimit_pos accepted
  have responded :
      response =
        (responseTo (answerReturns source config query).outcome).shared :=
    Deployment.answer_returns decoded
  have status :
      response.status =
        (responseTo (answerReturns source config query).outcome).status := by
    rw [responded]
    rfl
  have body :
      response.body =
        (responseTo (answerReturns source config query).outcome).body := by
    rw [responded]
    rfl
  obtain ⟨refused, notFound, failed, answered, oneOf⟩ :=
    status_responseTo (answerReturns source config query).outcome
  rw [status, body]
  refine ⟨oneOf, refused.trans answerReturns_badRequest_iff, ?_,
    notFound.trans ?_, failed.trans ?_, answered.trans ?_, ?_⟩
  · intro name lacks
    rw [answerReturns_of_firstLacks lacks]
    exact ⟨rfl, rfl⟩
  · constructor
    · rintro ⟨message, missing⟩
      obtain ⟨address, pool, named⟩ := names_of_outcome missing (by simp)
      exact ⟨address, pool, named,
        (answerReturns_notFound_iff named).mp ⟨message, missing⟩⟩
    · rintro ⟨address, pool, named, none⟩
      exact (answerReturns_notFound_iff named).mpr none
  · constructor
    · rintro ⟨message, stopped⟩
      obtain ⟨address, pool, named⟩ := names_of_outcome stopped (by simp)
      exact ⟨address, pool, named,
        (answerReturns_internal_iff paged named).mp ⟨message, stopped⟩⟩
    · rintro ⟨address, pool, named, fails⟩
      exact (answerReturns_internal_iff paged named).mpr fails
  · constructor
    · rintro ⟨answer, found⟩
      obtain ⟨address, pool, named⟩ := names_of_outcome found (by simp)
      obtain ⟨rfl, rfl, supported⟩ :=
        (answerReturns_eq_ok_iff named).mp found
      exact ⟨answer, named, supported⟩
    · rintro ⟨answer, named, supported⟩
      exact ⟨answer,
        (answerReturns_eq_ok_iff named).mpr ⟨rfl, rfl, supported⟩⟩
  · intro answer named supported
    have found :=
      (answerReturns_eq_ok_iff named).mpr ⟨rfl, rfl, supported⟩
    rw [found]
    rfl

namespace Sample

/-- Pages of two actions, and one question at a time. -/
def environment : Environment :=
  fun name =>
    [("ACTIONS_PAGE_LIMIT", "2"), ("PRICE_FETCH_CONCURRENCY", "1")].lookup
      name

/--
The text that asks for the sample position, with a blank before the address.
-/
def questionText : String :=
  "address=+thor1member&pool=BTC.BTC"

/-- The question for the sample position, with the blank that its text has. -/
def question : ReturnsQuery where
  address := some " thor1member"
  pool := some "BTC.BTC"

/--
The response to the question for the sample position when a source answers.
-/
def responseFrom (source : DataSource) : Response :=
  Deployment.answer { config, source }
    { method := .get
      path := "/v1/returns"
      query := questionText }

/-- The records of the sample, but no actions are known. -/
def actionless : DataSource :=
  { fixture.source with actions := fun _ _ _ => .error (.notFound "actions") }

end Sample

/--
A member that is not known is not found, unknown actions are a failure, and all
records are answered.
-/
theorem returns_answered_in_one_of_four_ways_sample :
    Config.ofEnvironment Sample.environment = .ok Sample.config ∧
    ReturnsQuery.ofPairs (Web.Form.decode Sample.questionText.toList) =
      .ok Sample.question ∧
    (Sample.responseFrom Fixture.empty.source).status = 404 ∧
    (Sample.responseFrom Sample.actionless).status = 500 ∧
    ∃ answer : ReturnsAnswer,
      Sample.fixture.source.Supports Sample.config answer ∧
        (Sample.responseFrom Sample.fixture.source).body =
          .document answer.toJson := by
  have accepted :
      Config.ofEnvironment Sample.environment = .ok Sample.config := by
    decide +kernel
  have decoded :
      ReturnsQuery.ofPairs (Web.Form.decode Sample.questionText.toList) =
        .ok Sample.question := by
    decide +kernel
  have named : Sample.question.Names Sample.address Sample.pool :=
    ⟨⟨by decide, _, rfl, by decide +kernel⟩,
      ⟨by decide, _, rfl, by decide +kernel⟩⟩
  have shown :
      Sample.actionless.ShowsPosition Sample.address Sample.pool
        Sample.member Sample.state :=
    ⟨⟨_, rfl, by decide +kernel⟩, by decide +kernel⟩
  have ways (source : DataSource) :=
    @returns_answered_in_one_of_four_ways Sample.environment
      { config := Sample.config, source } accepted _ _ decoded
  refine ⟨accepted, decoded, ?_, ?_, ?_⟩
  · obtain ⟨_, _, _, notFound, _⟩ := ways Fixture.empty.source
    exact notFound.mpr ⟨_, _, named, .memberUnknown rfl⟩
  · obtain ⟨_, _, _, _, failed, _⟩ := ways Sample.actionless
    exact failed.mpr
      ⟨_, _, named, shown.not_noPosition,
        .inl (.page shown ⟨0, _, .first, rfl⟩)⟩
  · obtain ⟨_, _, _, _, _, answered, body⟩ := ways Sample.fixture.source
    have status :
        (Sample.responseFrom Sample.fixture.source).status = 200 := by
      decide +kernel
    obtain ⟨answer, answerNamed, supported⟩ := answered.mp status
    exact ⟨answer, supported, body answer answerNamed supported⟩

end LiquidityReturns
