import Mathlib
import LiquidityReturns.Inquiry.Requests
import LiquidityReturns.Proofs.Inquiry.InquiryOutcome

namespace LiquidityReturns

/-!
# Prices do not depend on the order of the answers

Every run of price questions asks for a front part of the seconds of the
actions that count, and for all of them unless one fails.  The samples come in
the order of their answers, but each is keyed by the second that was asked
for, and no second is asked for twice.  So the two series and the number of
samples are the same at the end of every run, and the questions asked one
after another are one of these runs.
-/

/--
A second in which an action that counts is dated, so that its prices are
needed.
-/
def PriceNeeded
    (pool : Asset)
    (actions : List Action)
    (second : Second) : Prop :=
  ∃ action ∈ actions,
    action.counts pool = true ∧ action.date.second = second

/-- What fetching prices yields: the two series and the number of samples. -/
structure FetchedPrices where
  history : PriceHistory
  count : ℕ
  deriving DecidableEq

namespace FetchedPrices

/-- What is fetched when some samples came in order. -/
def ofSamples (samples : List PriceSample) : FetchedPrices where
  history := .ofSamples samples
  count := samples.length

/--
Both series hold the answers in the seconds that are needed, nothing else, and
the answers are counted.
-/
structure HoldsAnswers
    (fetched : FetchedPrices)
    (source : DataSource)
    (pool : Asset)
    (actions : List Action) : Prop where
  inRune :
    ∀ second price,
      fetched.history.inRune.get? second = some price ↔
        PriceNeeded pool actions second ∧
          ∃ sample,
            source.price pool second = .ok sample ∧
              sample.assetPrice = price
  inUsd :
    ∀ second price,
      fetched.history.inUsd.get? second = some price ↔
        PriceNeeded pool actions second ∧
          ∃ sample,
            source.price pool second = .ok sample ∧
              sample.assetPriceUsd = price
  count_inRune : fetched.count = fetched.history.inRune.size
  count_inUsd : fetched.count = fetched.history.inUsd.size

variable
  {source : DataSource}
  {pool : Asset}
  {actions : List Action}
  {samples : List PriceSample}

/-- The answers leave no choice of what is fetched. -/
theorem HoldsAnswers.unique
    {fetched other : FetchedPrices}
    (holds : fetched.HoldsAnswers source pool actions)
    (otherHolds : other.HoldsAnswers source pool actions) :
    fetched = other := by
  have inRune : fetched.history.inRune = other.history.inRune := by
    apply PriceSeries.ext_get?
    intro second
    apply Option.ext
    intro price
    exact (holds.inRune second price).trans
      (otherHolds.inRune second price).symm
  have inUsd : fetched.history.inUsd = other.history.inUsd := by
    apply PriceSeries.ext_get?
    intro second
    apply Option.ext
    intro price
    exact (holds.inUsd second price).trans
      (otherHolds.inUsd second price).symm
  have count : fetched.count = other.count := by
    rw [holds.count_inRune, inRune, ← otherHolds.count_inRune]
  rcases fetched with ⟨⟨_, _⟩, _⟩
  rcases other with ⟨⟨_, _⟩, _⟩
  simp_all

/--
A source contributes a sample in the seconds that it knows, keyed by the second
that was asked for.
-/
theorem sampleAt?_eq_some_iff
    {second : Second}
    {sample : PriceSample} :
    source.sampleAt? pool second = some sample ↔
      ∃ answered,
        source.price pool second = .ok answered ∧
          { answered with second } = sample := by
  unfold DataSource.sampleAt? contribution
  cases source.price pool second with
  | ok answered =>
      simp
  | error failure =>
      cases unknown : failure.isNotFound <;> simp [unknown]

/--
The last gathered sample of a second is the answer in that second, if it was
asked for.
-/
theorem lastAt?_eq_some_iff
    (gathered :
      samples.Perm
        ((requestedSeconds pool actions).filterMap
          (source.sampleAt? pool)))
    {second : Second}
    {sample : PriceSample} :
    PriceSample.lastAt? samples second = some sample ↔
      PriceNeeded pool actions second ∧
        source.sampleAt? pool second = some sample := by
  constructor
  · intro found
    have member : sample ∈ samples :=
      List.mem_reverse.mp (List.mem_of_find?_eq_some found)
    have keyed : sample.second = second := by
      simpa using List.find?_some found
    obtain ⟨asked, requested, answered⟩ :=
      List.mem_filterMap.mp (gathered.subset member)
    have same : asked = second :=
      (DataSource.second_of_sampleAt? answered).symm.trans keyed
    subst same
    exact ⟨mem_requestedSeconds.mp requested, answered⟩
  · rintro ⟨needed, answered⟩
    have requested : second ∈ requestedSeconds pool actions :=
      mem_requestedSeconds.mpr needed
    rw [PriceSample.lastAt?_of_gathered gathered requested, answered]

/--
A price of the last sample of a second is the one answered in that second.
-/
theorem map_lastAt?_eq_some_iff
    (gathered :
      samples.Perm
        ((requestedSeconds pool actions).filterMap
          (source.sampleAt? pool)))
    {price : PriceSample → Decimal}
    (keyless : ∀ sample second, price { sample with second } = price sample)
    {second : Second}
    {amount : Decimal} :
    (PriceSample.lastAt? samples second).map price = some amount ↔
      PriceNeeded pool actions second ∧
        ∃ sample,
          source.price pool second = .ok sample ∧ price sample = amount := by
  simp only [Option.map_eq_some_iff, lastAt?_eq_some_iff gathered,
    sampleAt?_eq_some_iff]
  constructor
  · rintro ⟨_, ⟨needed, answered, found, rfl⟩, same⟩
    exact ⟨needed, answered, found,
      (keyless answered second).symm.trans same⟩
  · rintro ⟨needed, answered, found, same⟩
    exact ⟨_, ⟨needed, answered, found, rfl⟩,
      (keyless answered second).trans same⟩

/-- No two gathered samples have the same second. -/
theorem nodup_seconds
    (gathered :
      samples.Perm
        ((requestedSeconds pool actions).filterMap
          (source.sampleAt? pool))) :
    (samples.map PriceSample.second).Nodup := by
  apply (gathered.map PriceSample.second).nodup_iff.mpr
  rw [List.map_filterMap]
  apply List.Nodup.filterMap _ (nodup_requestedSeconds pool actions)
  intro first second key firstKey secondKey
  obtain ⟨firstSample, firstFound, rfl⟩ :=
    Option.map_eq_some_iff.mp firstKey
  obtain ⟨sample, found, same⟩ := Option.map_eq_some_iff.mp secondKey
  rw [DataSource.second_of_sampleAt? firstFound,
    DataSource.second_of_sampleAt? found] at same
  exact same.symm

/--
A series of prices that every sample has is as long as the samples, if no two
have the same second.
-/
theorem length_eq_size
    (distinct : (samples.map PriceSample.second).Nodup)
    {series : PriceSeries}
    {price : PriceSample → Decimal}
    (looksUp :
      ∀ second,
        series.get? second =
          (PriceSample.lastAt? samples second).map price) :
    samples.length = series.size := by
  have priced :
      ∀ second,
        second ∈ samples.map PriceSample.second ↔
          (series.get? second).isSome = true := by
    intro second
    rw [looksUp, Option.isSome_map]
    simp [PriceSample.lastAt?]
  rw [PriceSeries.size_eq_length distinct priced, List.length_map]

/-- Gathered samples yield the answers, in whatever order they came. -/
theorem holdsAnswers_of_gathered
    (gathered :
      samples.Perm
        ((requestedSeconds pool actions).filterMap
          (source.sampleAt? pool))) :
    (ofSamples samples).HoldsAnswers source pool actions where
  inRune second price := by
    rw [ofSamples, PriceHistory.inRune_ofSamples]
    exact map_lastAt?_eq_some_iff gathered fun _ _ => rfl
  inUsd second price := by
    rw [ofSamples, PriceHistory.inUsd_ofSamples]
    exact map_lastAt?_eq_some_iff gathered fun _ _ => rfl
  count_inRune :=
    length_eq_size (nodup_seconds gathered)
      (PriceHistory.inRune_ofSamples samples)
  count_inUsd :=
    length_eq_size (nodup_seconds gathered)
      (PriceHistory.inUsd_ofSamples samples)

end FetchedPrices

namespace PriceQueue

variable
  {source : DataSource}
  {pool : Asset}
  {limit : ℕ}
  {queue : PriceQueue}
  {asked : List Second}
  {outcome : Except SourceError (List PriceSample)}
  {samples : List PriceSample}
  {failure : SourceError}

/-- A run ends as asking may end. -/
theorem Run.ends (run : Run source pool limit queue asked outcome) :
    Ends source pool limit queue outcome := by
  induction run with
  | done =>
      exact .done
  | failed answered =>
      exact .failed answered
  | ask room rest inductionHypothesis =>
      exact .step (.ask room) inductionHypothesis
  | answer answered rest inductionHypothesis =>
      exact .step (.answer answered) inductionHypothesis

/-- However asking may end, there is a run that ends so. -/
theorem Ends.exists_run (ends : Ends source pool limit queue outcome) :
    ∃ asked, Run source pool limit queue asked outcome := by
  induction ends with
  | done =>
      exact ⟨[], .done⟩
  | failed answered =>
      exact ⟨[], .failed answered⟩
  | step first rest inductionHypothesis =>
      obtain ⟨asked, run⟩ := inductionHypothesis
      cases first with
      | ask room =>
          exact ⟨_ :: asked, .ask room run⟩
      | answer answered =>
          exact ⟨asked, .answer answered run⟩

/-- A run asks for a front part of what is waiting, in order. -/
theorem Run.asked_prefix (run : Run source pool limit queue asked outcome) :
    asked <+: queue.waiting := by
  induction run with
  | done =>
      exact List.nil_prefix
  | failed answered =>
      exact List.nil_prefix
  | ask room rest inductionHypothesis =>
      exact (List.prefix_cons_inj _).mpr inductionHypothesis
  | answer answered rest inductionHypothesis =>
      exact inductionHypothesis

/-- A run that ends with samples has asked for everything that was waiting. -/
theorem Run.asked_eq
    (run : Run source pool limit queue asked (.ok samples)) :
    asked = queue.waiting := by
  generalize shape : Except.ok samples = outcome at run
  induction run with
  | done =>
      rfl
  | failed answered =>
      cases shape
  | ask room rest inductionHypothesis =>
      exact congrArg _ (inductionHypothesis shape)
  | answer answered rest inductionHypothesis =>
      exact inductionHypothesis shape

/--
The failure that ends a run is that of a second under way, which was under way
before or is asked for.
-/
theorem Run.failure_asked
    (run : Run source pool limit queue asked (.error failure)) :
    ∃ second ∈ queue.underway ++ asked,
      contribution second (source.price pool second) =
        .error failure := by
  generalize shape : Except.error failure = outcome at run
  induction run with
  | done =>
      cases shape
  | @failed second waiting earlier later samples reason answered =>
      cases shape
      exact ⟨second, by simp, answered⟩
  | ask room rest inductionHypothesis =>
      obtain ⟨second, member, failed⟩ := inductionHypothesis shape
      refine ⟨second, ?_, failed⟩
      simp only [List.cons_append, List.mem_cons, List.mem_append] at member ⊢
      tauto
  | answer answered rest inductionHypothesis =>
      obtain ⟨second, member, failed⟩ := inductionHypothesis shape
      refine ⟨second, ?_, failed⟩
      simp only [List.mem_cons, List.mem_append] at member ⊢
      tauto

/--
What a queue has still to do: every second that waits is asked for and
answered.
-/
def remaining (queue : PriceQueue) : ℕ :=
  2 * queue.waiting.length + queue.underway.length

theorem Step.remaining_lt
    {before after : PriceQueue}
    (step : Step source pool limit before after) :
    after.remaining < before.remaining := by
  cases step with
  | ask room =>
      simp only [remaining, List.length_cons]
      omega
  | answer answered =>
      simp only [remaining, List.length_append, List.length_cons]
      omega

/-- Questions and answers come to an end. -/
theorem wellFounded_step (source : DataSource) (pool : Asset) (limit : ℕ) :
    WellFounded fun after before => Step source pool limit before after :=
  Subrelation.wf Step.remaining_lt (measure remaining).wf

/-- An answer before others puts its sample before theirs. -/
private theorem map_gathered_cons
    (samples : List PriceSample)
    (sample : Option PriceSample)
    (rest : Except SourceError (List (Option PriceSample))) :
    (rest >>= fun later => pure (sample :: later)).map
        (fun found => samples ++ found.filterMap id) =
      rest.map fun later =>
        samples ++ sample.toList ++ later.filterMap id := by
  cases rest with
  | error failure =>
      rfl
  | ok later =>
      cases sample <;> simp [Except.map, Outcome.pure_eq_ok]

/-- With room for one question, asking for one second after another is a run. -/
theorem exists_run_mapM
    (source : DataSource)
    (pool : Asset)
    (room : 0 < limit)
    (waiting : List Second)
    (samples : List PriceSample) :
    ∃ asked,
      (waiting.mapM (source.askPrice pool)).calls =
          asked.map (Call.price pool) ∧
        Run source pool limit ⟨waiting, [], samples⟩ asked
          ((waiting.mapM fun second =>
              contribution second (source.price pool second)).map
            fun found => samples ++ found.filterMap id) := by
  induction waiting generalizing samples with
  | nil =>
      refine ⟨[], rfl, ?_⟩
      simp only [List.mapM_nil, Outcome.pure_eq_ok, Except.map,
        List.filterMap_nil, List.append_nil]
      exact .done
  | cons second rest inductionHypothesis =>
      rw [List.mapM_cons, List.mapM_cons]
      cases answered : contribution second (source.price pool second) with
      | error failure =>
          have stopped :
              Run source pool limit ⟨rest, [] ++ second :: [], samples⟩ []
                (.error failure) :=
            .failed answered
          exact ⟨[second], Traced.calls_bind_of_error answered _,
            .ask room stopped⟩
      | ok sample =>
          obtain ⟨asked, calls, run⟩ :=
            inductionHypothesis (samples ++ sample.toList)
          have taken :
              Run source pool limit
                ⟨rest, [] ++ second :: [], samples⟩ asked
                ((rest.mapM fun later =>
                    contribution later (source.price pool later)).map
                  fun found =>
                    samples ++ sample.toList ++ found.filterMap id) :=
            .answer answered run
          refine ⟨second :: asked, ?_, ?_⟩
          · rw [Traced.calls_bind_of_ok answered, Traced.calls_bind_pure,
              calls]
            rfl
          · rw [← map_gathered_cons] at taken
            exact .ask room taken

/-- With room for one question, every queue has a run. -/
theorem exists_run
    (source : DataSource)
    (pool : Asset)
    (room : 0 < limit)
    (queue : PriceQueue) :
    ∃ asked outcome, Run source pool limit queue asked outcome := by
  obtain ⟨outcome, ends⟩ := exists_ends source pool room queue
  obtain ⟨asked, run⟩ := ends.exists_run
  exact ⟨asked, outcome, run⟩

end PriceQueue

namespace DataSource

/--
With room for one question, asking for all prices one after another is a run.
-/
theorem exists_run_askPrices
    (source : DataSource)
    (pool : Asset)
    (actions : List Action)
    {limit : ℕ}
    (room : 0 < limit) :
    ∃ asked,
      (source.askPrices pool actions).calls =
          asked.map (Call.price pool) ∧
        PriceQueue.Run source pool limit
          (.start (requestedSeconds pool actions)) asked
          (source.askPrices pool actions).outcome := by
  obtain ⟨asked, calls, run⟩ :=
    PriceQueue.exists_run_mapM source pool room
      (requestedSeconds pool actions) []
  refine ⟨asked, ?_, ?_⟩
  · rw [← calls]
    exact Traced.calls_bind_pure _ _
  · rw [outcome_askPrices, gatherSamples, List.mapM_map]
    exact run

end DataSource

/--
What holds of a run of price questions: what was asked for, and how it ended.
-/
structure FetchesAlike
    (source : DataSource)
    (pool : Asset)
    (actions : List Action)
    (fetched : FetchedPrices)
    (asked : List Second)
    (outcome : Except SourceError (List PriceSample)) : Prop where
  asked_once : asked.Nodup
  asked_needed : ∀ second ∈ asked, PriceNeeded pool actions second
  all_asked :
    source.PricesAnswered pool actions →
      ∀ second, PriceNeeded pool actions second → second ∈ asked
  fetches :
    source.PricesAnswered pool actions →
      ∃ samples,
        outcome = .ok samples ∧ FetchedPrices.ofSamples samples = fetched
  fails :
    source.PriceFails pool actions →
      ∃ second ∈ asked, ∃ failure,
        failure.isNotFound = false ∧
          source.price pool second = .error failure ∧
          outcome = .error failure

section Alike

variable
  {source : DataSource}
  {pool : Asset}
  {actions : List Action}
  {fetched : FetchedPrices}
  {limit : ℕ}
  {asked : List Second}

/--
A run that ends with samples has asked for everything and fetched what every
other one fetches.
-/
private theorem fetchesAlike_of_samples
    (holds : fetched.HoldsAnswers source pool actions)
    {samples : List PriceSample}
    (run :
      PriceQueue.Run source pool limit
        (.start (requestedSeconds pool actions)) asked (.ok samples)) :
    FetchesAlike source pool actions fetched asked (.ok samples) := by
  have all : asked = requestedSeconds pool actions := run.asked_eq
  obtain ⟨gathered, answers⟩ := run.ends.samples
  subst all
  refine {
    asked_once := nodup_requestedSeconds pool actions
    asked_needed := fun second member => mem_requestedSeconds.mp member
    all_asked := fun _ second needed => mem_requestedSeconds.mpr needed
    fetches := fun _ => ⟨samples, rfl, ?_⟩
    fails := ?_
  }
  · exact (FetchedPrices.holdsAnswers_of_gathered gathered).unique holds
  · rintro ⟨action, member, counted, failure, known, failed⟩
    have requested :
        action.date.second ∈ requestedSeconds pool actions :=
      mem_requestedSeconds.mpr ⟨action, member, counted, rfl⟩
    obtain ⟨sample, answered⟩ := answers action.date.second requested
    have stopped :
        contribution action.date.second
            (source.price pool action.date.second) =
          .error failure :=
      DataSource.contribution_eq_error_iff.mpr ⟨known, failed⟩
    cases answered.symm.trans stopped

/-- A run that ends with a failure has asked for the second that failed. -/
private theorem fetchesAlike_of_failure
    {failure : SourceError}
    (run :
      PriceQueue.Run source pool limit
        (.start (requestedSeconds pool actions)) asked (.error failure)) :
    FetchesAlike source pool actions fetched asked (.error failure) := by
  have front : asked <+: requestedSeconds pool actions := run.asked_prefix
  have needed : ∀ second ∈ asked, PriceNeeded pool actions second :=
    fun second member => mem_requestedSeconds.mp (front.subset member)
  obtain ⟨second, member, stopped⟩ := run.failure_asked
  obtain ⟨known, failed⟩ := DataSource.contribution_eq_error_iff.mp stopped
  have unanswered : ¬ source.PricesAnswered pool actions := by
    rw [DataSource.pricesAnswered_iff, not_not]
    obtain ⟨action, listed, counted, rfl⟩ := needed second member
    exact ⟨action, listed, counted, failure, known, failed⟩
  exact {
    asked_once := front.sublist.nodup (nodup_requestedSeconds pool actions)
    asked_needed := needed
    all_asked := fun answered => (unanswered answered).elim
    fetches := fun answered => (unanswered answered).elim
    fails := fun _ => ⟨second, member, failure, known, failed, rfl⟩
  }

/-- Every run from the seconds that are needed fetches alike. -/
theorem fetchesAlike_of_run
    (holds : fetched.HoldsAnswers source pool actions)
    {outcome : Except SourceError (List PriceSample)}
    (run :
      PriceQueue.Run source pool limit
        (.start (requestedSeconds pool actions)) asked outcome) :
    FetchesAlike source pool actions fetched asked outcome := by
  cases outcome with
  | ok samples =>
      exact fetchesAlike_of_samples holds run
  | error failure =>
      exact fetchesAlike_of_failure run

end Alike

/--
All runs of price questions fetch the same two series and the same number of
samples, and the questions asked one after another are such a run.  Every
second that is needed is asked for once, unless one of them fails; then the
run ends with such a failure.  From every queue there is a run, and no run
goes on for ever.
-/
theorem prices_fetched_alike_in_every_order
    (source : DataSource)
    (pool : Asset)
    (actions : List Action)
    {limit : ℕ}
    (concurrent : 1 ≤ limit) :
    ∃ fetched : FetchedPrices,
      fetched.HoldsAnswers source pool actions ∧
      (∀ asked outcome,
        PriceQueue.Run source pool limit
            (.start (requestedSeconds pool actions)) asked outcome →
          FetchesAlike source pool actions fetched asked outcome) ∧
      (∃ asked,
        (source.askPrices pool actions).calls =
            asked.map (Call.price pool) ∧
          FetchesAlike source pool actions fetched asked
            (source.askPrices pool actions).outcome) ∧
      (∀ queue, ∃ asked outcome,
        PriceQueue.Run source pool limit queue asked outcome) ∧
      WellFounded fun after before =>
        PriceQueue.Step source pool limit before after := by
  have holds :=
    FetchedPrices.holdsAnswers_of_gathered
      (List.Perm.refl
        ((requestedSeconds pool actions).filterMap
          (source.sampleAt? pool)))
  obtain ⟨asked, calls, run⟩ :=
    source.exists_run_askPrices pool actions concurrent
  refine ⟨_, holds, ?_, ?_, ?_, ?_⟩
  · intro asked outcome other
    exact fetchesAlike_of_run holds other
  · exact ⟨asked, calls, fetchesAlike_of_run holds run⟩
  · exact PriceQueue.exists_run source pool concurrent
  · exact PriceQueue.wellFounded_step source pool limit

namespace Sample

/-- Three actions in two seconds. -/
def history : List Action :=
  [addition, withdrawal, laterAddition]

/-- A source whose samples of two seconds carry each other's second. -/
def crossedSource : DataSource where
  member _ := .error .rateLimited
  pool _ := .error .rateLimited
  actions _ _ _ := .error .rateLimited
  price _ second :=
    if second = ⟨1⟩ then
      .ok ⟨⟨2⟩, integral 20, integral 40000⟩
    else
      .ok ⟨⟨1⟩, integral 25, integral 50000⟩

end Sample

/--
Samples that carry each other's second are not mixed up, whichever of them
comes first.
-/
theorem prices_fetched_alike_in_every_order_sample :
    (1 : ℕ) ≤ 2 ∧
    Sample.crossedSource.PricesAnswered Sample.pool Sample.history ∧
    ∃ fetched : FetchedPrices,
      fetched.count = 2 ∧
      fetched.history.inRune.get? ⟨1⟩ = some (Sample.integral 20) ∧
      fetched.history.inRune.get? ⟨2⟩ = some (Sample.integral 25) ∧
      ∀ asked outcome,
        PriceQueue.Run Sample.crossedSource Sample.pool 2
            (.start (requestedSeconds Sample.pool Sample.history))
            asked outcome →
          asked.Nodup ∧ ⟨1⟩ ∈ asked ∧ ⟨2⟩ ∈ asked ∧
            ∃ samples,
              outcome = .ok samples ∧
                FetchedPrices.ofSamples samples = fetched := by
  have concurrent : (1 : ℕ) ≤ 2 := by
    decide
  have answered :
      Sample.crossedSource.PricesAnswered Sample.pool Sample.history := by
    intro action _ _
    by_cases first : action.date.second = ⟨1⟩
    · exact .inl ⟨_, if_pos first⟩
    · exact .inl ⟨_, if_neg first⟩
  have needed :
      ∀ second ∈ [⟨1⟩, ⟨2⟩],
        PriceNeeded Sample.pool Sample.history second := by
    have requested :
        requestedSeconds Sample.pool Sample.history = [⟨1⟩, ⟨2⟩] := by
      decide +kernel
    intro second member
    exact mem_requestedSeconds.mp (requested ▸ member)
  have firstNeeded := needed ⟨1⟩ (by simp)
  have secondNeeded := needed ⟨2⟩ (by simp)
  obtain ⟨fetched, holds, alike, ⟨asked, _, inOrder⟩, _⟩ :=
    prices_fetched_alike_in_every_order Sample.crossedSource Sample.pool
      Sample.history concurrent
  have known :
      (Sample.crossedSource.askPrices Sample.pool Sample.history).outcome =
        .ok [⟨⟨1⟩, Sample.integral 20, Sample.integral 40000⟩,
          ⟨⟨2⟩, Sample.integral 25, Sample.integral 50000⟩] := by
    decide +kernel
  obtain ⟨samples, gathered, rfl⟩ := inOrder.fetches answered
  cases known.symm.trans gathered
  refine ⟨concurrent, answered, _, rfl,
    (holds.inRune _ _).mpr ⟨firstNeeded, _, rfl, rfl⟩,
    (holds.inRune _ _).mpr ⟨secondNeeded, _, rfl, rfl⟩, ?_⟩
  intro asked outcome run
  have laws := alike asked outcome run
  exact ⟨laws.asked_once, laws.all_asked answered _ firstNeeded,
    laws.all_asked answered _ secondNeeded, laws.fetches answered⟩

end LiquidityReturns
