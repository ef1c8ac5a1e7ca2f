import Mathlib
import LiquidityReturns.Proofs.Inquiry.PriceAnswers
import LiquidityReturns.Proofs.Prices.Lookup
import LiquidityReturns.Proofs.Returns.Computability
import LiquidityReturns.Source.Fixture

namespace LiquidityReturns

/-!
# Gathered prices and the actions that need them

The seconds that are asked for and the seconds that a computation looks up are
found by different rules.  On the samples that were gathered, both rules agree:
a price is missing only where the source lacks the second of an action that
counts and moves a coin, and a computation succeeds only if there is none.
-/

namespace DataSource

/-- A second for which a source has a sample. -/
def Knows (source : DataSource) (pool : Asset) (second : Second) : Prop :=
  ∃ sample, source.price pool second = .ok sample

/-- A second that a source does not know. -/
def Lacks (source : DataSource) (pool : Asset) (second : Second) : Prop :=
  ∃ what, source.price pool second = .error (.notFound what)

variable {source : DataSource} {pool : Asset} {second : Second}

theorem answers_of_knows
    (known : source.Knows pool second) :
    source.Answers pool second := by
  obtain ⟨sample, answer⟩ := known
  exact ⟨some { sample with second }, by rw [answer]; rfl⟩

theorem answers_of_lacks
    (lacking : source.Lacks pool second) :
    source.Answers pool second := by
  obtain ⟨what, answer⟩ := lacking
  exact ⟨none, by rw [answer]; rfl⟩

theorem not_lacks_of_knows
    (known : source.Knows pool second) :
    ¬ source.Lacks pool second := by
  intro lacking
  obtain ⟨sample, answer⟩ := known
  obtain ⟨what, missing⟩ := lacking
  rw [answer] at missing
  cases missing

/-- A source contributes a sample exactly in the seconds that it knows. -/
theorem isSome_sampleAt?_iff :
    (source.sampleAt? pool second).isSome = true ↔
      source.Knows pool second := by
  unfold sampleAt? contribution Knows
  cases answer : source.price pool second with
  | ok sample =>
      simp
  | error failure =>
      cases unknown : failure.isNotFound <;> simp [unknown]

end DataSource

section Gathered

variable
  {source : DataSource}
  {pool : Asset}
  {actions : List Action}
  {samples : List PriceSample}
  {second : Second}

/--
The last gathered sample of a second that was asked for is the one that the
source contributes.
-/
theorem PriceSample.lastAt?_of_gathered
    (gathered :
      samples.Perm
        ((requestedSeconds pool actions).filterMap
          (source.sampleAt? pool)))
    (asked : second ∈ requestedSeconds pool actions) :
    lastAt? samples second = source.sampleAt? pool second :=
  lastAt?_of_answers (fun _ _ => DataSource.second_of_sampleAt?) gathered
    asked

/-- There is a price in rune exactly in the seconds that the source knows. -/
theorem PriceHistory.isSome_inRune_of_gathered
    (gathered :
      samples.Perm
        ((requestedSeconds pool actions).filterMap
          (source.sampleAt? pool)))
    (asked : second ∈ requestedSeconds pool actions) :
    ((ofSamples samples).inRune.get? second).isSome = true ↔
      source.Knows pool second := by
  rw [inRune_ofSamples, PriceSample.lastAt?_of_gathered gathered asked,
    Option.isSome_map, DataSource.isSome_sampleAt?_iff]

/-- There is a price in dollars exactly in the seconds that the source knows. -/
theorem PriceHistory.isSome_inUsd_of_gathered
    (gathered :
      samples.Perm
        ((requestedSeconds pool actions).filterMap
          (source.sampleAt? pool)))
    (asked : second ∈ requestedSeconds pool actions) :
    ((ofSamples samples).inUsd.get? second).isSome = true ↔
      source.Knows pool second := by
  rw [inUsd_ofSamples, PriceSample.lastAt?_of_gathered gathered asked,
    Option.isSome_map, DataSource.isSome_sampleAt?_iff]

end Gathered

/--
How a computation on gathered samples depends on the seconds that their source
lacks.
-/
structure PricesSuffice
    (source : DataSource)
    (position : Position)
    (state : PoolState)
    (actions : List Action)
    (samples : List PriceSample) : Prop where
  none_missing :
    (∀ second ∈ requestedSeconds position.pool actions,
      source.Knows position.pool second) →
      ∀ kind date second denomination,
        computeReturns position state actions (.ofSamples samples) ≠
          .error (.missingPrice kind date second denomination)
  missing_lacked :
    ∀ kind date second denomination,
      computeReturns position state actions (.ofSamples samples) =
          .error (.missingPrice kind date second denomination) →
        denomination = .rune ∧
          second ∈ requestedSeconds position.pool actions ∧
          source.Lacks position.pool second ∧
          ∃ action ∈ actions,
            action.kind = kind ∧ action.date = date ∧
              action.date.second = second ∧
              action.counts position.pool = true ∧
              action.moves position.pool = true
  computed_known :
    ∀ summary,
      computeReturns position state actions (.ofSamples samples) =
          .ok summary →
        ∀ action ∈ actions,
          action.counts position.pool = true →
            action.moves position.pool = true →
              ¬ source.Lacks position.pool action.date.second

/--
Samples that were gathered from a source which answers every second suffice.
-/
theorem pricesSuffice_of_gathered
    {source : DataSource}
    {position : Position}
    {actions : List Action}
    (answered :
      ∀ second ∈ requestedSeconds position.pool actions,
        source.Knows position.pool second ∨
          source.Lacks position.pool second)
    {samples : List PriceSample}
    (gathered :
      samples.Perm
        ((requestedSeconds position.pool actions).filterMap
          (source.sampleAt? position.pool)))
    (state : PoolState) :
    PricesSuffice source position state actions samples := by
  have missing_lacked :
      ∀ kind date second denomination,
        computeReturns position state actions (.ofSamples samples) =
            .error (.missingPrice kind date second denomination) →
          denomination = .rune ∧
            second ∈ requestedSeconds position.pool actions ∧
            source.Lacks position.pool second ∧
            ∃ action ∈ actions,
              action.kind = kind ∧ action.date = date ∧
                action.date.second = second ∧
                action.counts position.pool = true ∧
                action.moves position.pool = true := by
    intro kind date second denomination failed
    obtain ⟨action, member, stopped⟩ :=
      exists_action_of_computeReturns failed (by simp)
    have asked :
        action.counts position.pool = true →
          action.date.second ∈ requestedSeconds position.pool actions :=
      fun counted =>
        mem_requestedSeconds.mpr ⟨action, member, counted, rfl⟩
    cases stopped with
    | runePriceMissing counted moving missing =>
        have unknown :
            ¬ source.Knows position.pool action.date.second := by
          rw [← PriceHistory.isSome_inRune_of_gathered gathered
            (asked counted), missing]
          simp
        exact ⟨rfl, asked counted,
          (answered _ (asked counted)).resolve_left unknown,
          action, member, rfl, rfl, rfl, counted, moving⟩
    | usdPriceMissing counted moving present missing =>
        -- One answer gives both prices, so none of them is missing alone.
        have known :=
          (PriceHistory.isSome_inRune_of_gathered gathered
            (asked counted)).mp present
        rw [← PriceHistory.isSome_inUsd_of_gathered gathered
          (asked counted), missing] at known
        cases known
  refine ⟨?_, missing_lacked, ?_⟩
  · intro known kind date second denomination failed
    obtain ⟨_, asked, lacking, _⟩ :=
      missing_lacked kind date second denomination failed
    exact DataSource.not_lacks_of_knows (known second asked) lacking
  · intro summary computed action member counted moving
    have asked :
        action.date.second ∈ requestedSeconds position.pool actions :=
      mem_requestedSeconds.mpr ⟨action, member, counted, rfl⟩
    obtain ⟨present, _⟩ :=
      (computable_of_computeReturns computed).pricesPresent action member
        counted (Action.moves_iff.mp moving)
    exact DataSource.not_lacks_of_knows
      ((PriceHistory.isSome_inRune_of_gathered gathered asked).mp present)

/--
When a source answers every second that is asked for, be it by not knowing it,
all prices can be gathered, in every order of the answers, and they suffice.
-/
theorem gathered_prices_suffice
    {source : DataSource}
    {position : Position}
    {actions : List Action}
    (answered :
      ∀ second ∈ requestedSeconds position.pool actions,
        source.Knows position.pool second ∨
          source.Lacks position.pool second)
    {limit : ℕ}
    (concurrent : 1 ≤ limit)
    (state : PoolState) :
    (∃ samples,
      (source.askPrices position.pool actions).outcome = .ok samples ∧
        PricesSuffice source position state actions samples) ∧
    (∃ outcome,
      (PriceQueue.start (requestedSeconds position.pool actions)).Ends
        source position.pool limit outcome) ∧
    ∀ outcome,
      (PriceQueue.start (requestedSeconds position.pool actions)).Ends
          source position.pool limit outcome →
        ∃ samples,
          outcome = .ok samples ∧
            PricesSuffice source position state actions samples := by
  have answers :
      ∀ second ∈ requestedSeconds position.pool actions,
        source.Answers position.pool second := by
    intro second asked
    rcases answered second asked with known | lacking
    · exact DataSource.answers_of_knows known
    · exact DataSource.answers_of_lacks lacking
  refine ⟨?_, ?_, ?_⟩
  · exact ⟨_, DataSource.outcome_askPrices_of_answers answers,
      pricesSuffice_of_gathered answered (List.Perm.refl _) state⟩
  · exact PriceQueue.exists_ends source position.pool concurrent _
  · intro outcome ends
    cases outcome with
    | ok samples =>
        exact ⟨samples, rfl,
          pricesSuffice_of_gathered answered ends.samples.1 state⟩
    | error failure =>
        obtain ⟨second, asked, failed⟩ := ends.failure
        obtain ⟨sample, answer⟩ :=
          answers second
            (by simpa [PriceQueue.pending, PriceQueue.start] using asked)
        rw [answer] at failed
        cases failed

namespace Sample

/-- A source that has the sample of the first second only. -/
def firstSecondSource : DataSource :=
  Fixture.source {
    Fixture.empty with
    prices := (samples.take 1).map fun sample => (pool, sample)
  }

end Sample

/--
Of the two seconds of three actions the source lacks one, and the samples of
the other suffice.
-/
theorem gathered_prices_suffice_sample :
    requestedSeconds Sample.position.pool
        [Sample.addition, Sample.withdrawal, Sample.laterAddition] =
      [⟨1⟩, ⟨2⟩] ∧
    Sample.firstSecondSource.Knows Sample.position.pool ⟨1⟩ ∧
    Sample.firstSecondSource.Lacks Sample.position.pool ⟨2⟩ ∧
    (1 : ℕ) ≤ 2 ∧
    (∃ samples,
      (Sample.firstSecondSource.askPrices Sample.position.pool
          [Sample.addition, Sample.withdrawal,
            Sample.laterAddition]).outcome =
        .ok samples ∧
        PricesSuffice Sample.firstSecondSource Sample.position Sample.state
          [Sample.addition, Sample.withdrawal, Sample.laterAddition]
          samples) := by
  have asked :
      requestedSeconds Sample.position.pool
          [Sample.addition, Sample.withdrawal, Sample.laterAddition] =
        [⟨1⟩, ⟨2⟩] := by
    decide +kernel
  have known :
      Sample.firstSecondSource.Knows Sample.position.pool ⟨1⟩ :=
    ⟨⟨⟨1⟩, Sample.integral 20, Sample.integral 40000⟩, rfl⟩
  have lacking :
      Sample.firstSecondSource.Lacks Sample.position.pool ⟨2⟩ :=
    ⟨_, rfl⟩
  have answered :
      ∀ second ∈
          requestedSeconds Sample.position.pool
            [Sample.addition, Sample.withdrawal, Sample.laterAddition],
        Sample.firstSecondSource.Knows Sample.position.pool second ∨
          Sample.firstSecondSource.Lacks Sample.position.pool second := by
    rw [asked]
    intro second member
    rcases List.mem_pair.mp member with rfl | rfl
    · exact .inl known
    · exact .inr lacking
  have concurrent : (1 : ℕ) ≤ 2 := by
    decide
  exact ⟨asked, known, lacking, concurrent,
    (gathered_prices_suffice answered concurrent Sample.state).1⟩

end LiquidityReturns
