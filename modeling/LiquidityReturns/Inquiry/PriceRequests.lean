import LiquidityReturns.Inquiry.Traced

namespace LiquidityReturns

/-!
# The prices that a computation needs

A price is asked for in each distinct second of the actions that count.  A
second that the source does not know is left out, so that the computation can
report it against the action concerned; any other failure ends the inquiry.
-/

/-- The distinct seconds of the actions that count in a pool, ascending. -/
def requestedSeconds (pool : Asset) (actions : List Action) : List Second :=
  Second.distinctAscending
    ((actions.filter fun action => action.counts pool).map
      fun action => action.date.second)

/--
What an answer contributes: a sample keyed by the second that was asked for.
-/
def contribution
    (requested : Second)
    (answer : Except SourceError PriceSample) :
    Except SourceError (Option PriceSample) :=
  match answer with
  | .ok sample =>
      .ok (some { sample with second := requested })
  | .error failure =>
      if failure.isNotFound then .ok none else .error failure

/-- The samples of some answers, in the order in which the answers came. -/
def gatherSamples
    (answers : List (Second × Except SourceError PriceSample)) :
    Except SourceError (List PriceSample) :=
  (answers.mapM fun answer => contribution answer.1 answer.2).map
    fun samples => samples.filterMap id

namespace DataSource

/-- Ask for the price in one second. -/
def askPrice
    (source : DataSource)
    (pool : Asset)
    (second : Second) :
    Traced SourceError (Option PriceSample) :=
  .ask (.price pool second)
    (contribution second (source.price pool second))

/-- Ask for the prices that a computation over some actions needs. -/
def askPrices
    (source : DataSource)
    (pool : Asset)
    (actions : List Action) :
    Traced SourceError (List PriceSample) := do
  let samples ←
    (requestedSeconds pool actions).mapM (source.askPrice pool)
  return samples.filterMap id

theorem outcome_askPrices
    (source : DataSource)
    (pool : Asset)
    (actions : List Action) :
    (source.askPrices pool actions).outcome =
      gatherSamples
        ((requestedSeconds pool actions).map fun second =>
          (second, source.price pool second)) := by
  simp only [askPrices, Traced.outcome_bind, Traced.outcome_pure,
    Traced.outcome_mapM, gatherSamples, List.mapM_map]
  rfl

end DataSource

end LiquidityReturns
