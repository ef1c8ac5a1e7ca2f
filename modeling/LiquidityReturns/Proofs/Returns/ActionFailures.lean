import Mathlib
import LiquidityReturns.Proofs.Returns.Coins
import LiquidityReturns.Proofs.Returns.Steps

namespace LiquidityReturns

/-!
# Why an action stops the accumulation

`ActionFailure` lists every way in which an action can fail, with its
conditions on the action and the market; `FlowTotals.failure_of_step` says
that there is no other.  In the other direction, `FlowTotals.legs_of_step`
opens an action that was accumulated into its two legs and their price.
-/

namespace Action

/-- The coins of both legs of an action; a missing leg has none. -/
def coins (action : Action) : List Coin :=
  Transfer.allCoins (action.inputs.getD []) ++
    Transfer.allCoins (action.outputs.getD [])

/-- Whether an action moves a coin of the position in a pool. -/
def moves (action : Action) (pool : Asset) : Bool :=
  action.coins.any fun coin => coin.moves pool

/-- A coin of an action that moves makes the action move. -/
theorem moves_of_mem
    {action : Action}
    {pool : Asset}
    {coin : Coin}
    (member : coin ∈ action.coins)
    (moving : coin.moves pool = true) :
    action.moves pool = true :=
  List.any_eq_true.mpr ⟨coin, member, moving⟩

/-- An action moves when it has a coin of the position that is not zero. -/
theorem moves_iff {action : Action} {pool : Asset} :
    action.moves pool = true ↔
      ∃ coin ∈ action.coins,
        coin.inPosition pool = true ∧ coin.amount.isZero = false := by
  simp [moves, Coin.moves]

/-- An action moves the position exactly when one of its legs does. -/
theorem movesPosition_legs
    {market : Market}
    {action : Action}
    {inputs outputs : List Transfer}
    (inputsPresent : action.inputs = some inputs)
    (outputsPresent : action.outputs = some outputs) :
    (market.movesPosition inputs || market.movesPosition outputs) =
      action.moves market.pool := by
  simp [moves, coins, inputsPresent, outputsPresent, Market.movesPosition,
    Coin.moves]

theorem part_eq_ok_iff
    {action : Action}
    {name : ActionPart}
    {optional : Option α}
    {value : α} :
    action.part name optional = .ok value ↔ optional = some value := by
  cases optional <;> simp [part]

theorem part_eq_error_iff
    {action : Action}
    {name : ActionPart}
    {optional : Option α}
    {failure : ComputationError} :
    action.part name optional = .error failure ↔
      optional = none ∧
        failure = .malformedAction action.kind action.date name := by
  cases optional <;> simp [part, eq_comm]

end Action

/-- The ways in which an action fails to be accumulated. -/
inductive ActionFailure (market : Market) (action : Action) :
    ComputationError → Prop where
  | poolsMissing
      (settled : action.isSuccess = true)
      (missing : action.pools = none) :
      ActionFailure market action
        (.malformedAction action.kind action.date .pools)
  | inputsMissing
      (counted : action.counts market.pool = true)
      (missing : action.inputs = none) :
      ActionFailure market action
        (.malformedAction action.kind action.date .inputs)
  | outputsMissing
      (counted : action.counts market.pool = true)
      (missing : action.outputs = none) :
      ActionFailure market action
        (.malformedAction action.kind action.date .outputs)
  | runePriceMissing
      (counted : action.counts market.pool = true)
      (moving : action.moves market.pool = true)
      (missing : market.prices.inRune.get? action.date.second = none) :
      ActionFailure market action
        (.missingPrice action.kind action.date action.date.second .rune)
  | usdPriceMissing
      (counted : action.counts market.pool = true)
      (moving : action.moves market.pool = true)
      (present :
        (market.prices.inRune.get? action.date.second).isSome = true)
      (missing : market.prices.inUsd.get? action.date.second = none) :
      ActionFailure market action
        (.missingPrice action.kind action.date action.date.second .usd)
  | zeroPrice
      (counted : action.counts market.pool = true)
      {price : PriceAt}
      (found :
        market.prices.inRune.get? action.date.second = some price.inRune)
      {coin : Coin}
      (member : coin ∈ action.coins)
      (unpriceable : coin.Unpriceable price)
      (quantity : String) :
      ActionFailure market action
        (.arithmetic .divisionByZero (action.describe quantity))
  | overflow
      (counted : action.counts market.pool = true)
      (quantity : String) :
      ActionFailure market action
        (.arithmetic .overflow (action.describe quantity))

namespace Market

/-- A price that was found is the one in the second of the action. -/
theorem priceAt_eq_ok_iff
    {market : Market}
    {action : Action}
    {price : PriceAt} :
    market.priceAt action = .ok price ↔
      market.prices.inRune.get? action.date.second = some price.inRune ∧
        market.prices.inUsd.get? action.date.second =
          some price.inUsd := by
  unfold priceAt
  dsimp only
  cases inRune : market.prices.inRune.get? action.date.second with
  | none =>
      simp
  | some runePrice =>
      cases inUsd : market.prices.inUsd.get? action.date.second with
      | none =>
          simp
      | some usdPrice =>
          rcases price with ⟨runeKnown, usdKnown⟩
          simp

/-- The price that an action of two present legs needs. -/
theorem neededPrice_eq
    (market : Market)
    {action : Action}
    {inputs outputs : List Transfer}
    (inputsPresent : action.inputs = some inputs)
    (outputsPresent : action.outputs = some outputs) :
    market.neededPrice action inputs outputs =
      if action.moves market.pool then
        (market.priceAt action).map some
      else
        .ok none := by
  unfold neededPrice
  rw [Action.movesPosition_legs inputsPresent outputsPresent]

/-- A price is missing in one of the two series. -/
theorem failure_of_priceAt
    {market : Market}
    {action : Action}
    (counted : action.counts market.pool = true)
    (moving : action.moves market.pool = true)
    {failure : ComputationError}
    (failed : market.priceAt action = .error failure) :
    ActionFailure market action failure := by
  unfold priceAt at failed
  dsimp only at failed
  cases inRune : market.prices.inRune.get? action.date.second with
  | none =>
      simp only [inRune, Except.error.injEq] at failed
      subst failed
      exact .runePriceMissing counted moving inRune
  | some runePrice =>
      cases inUsd : market.prices.inUsd.get? action.date.second with
      | none =>
          simp only [inRune, inUsd, Except.error.injEq] at failed
          subst failed
          exact .usdPriceMissing counted moving (by simp [inRune]) inUsd
      | some usdPrice =>
          simp [inRune, inUsd] at failed

end Market

namespace Action

/-- What an action shows about itself once its two flows are known. -/
structure Legs
    (action : Action)
    (market : Market)
    (inflow outflow : Flow)
    (inputs outputs : List Transfer)
    (price : Option PriceAt) : Prop where
  inputsPresent : action.inputs = some inputs
  outputsPresent : action.outputs = some outputs
  priceNeeded : market.neededPrice action inputs outputs = .ok price
  inflowSummed :
    Flow.ofTransfers market.pool price inputs = .ok inflow
  outflowSummed :
    Flow.ofTransfers market.pool price outputs = .ok outflow

/--
The two flows of an action are the flows of its legs at the price that it
needs.
-/
theorem flows_eq_ok_iff
    {action : Action}
    {market : Market}
    {inflow outflow : Flow} :
    action.flows market = .ok (inflow, outflow) ↔
      ∃ inputs outputs price,
        action.Legs market inflow outflow inputs outputs price := by
  unfold flows
  simp only [Outcome.bind_eq_ok_iff, part_eq_ok_iff,
    Outcome.computing_eq_ok_iff, Outcome.pure_eq_ok, Except.ok.injEq,
    Prod.mk.injEq]
  constructor
  · rintro ⟨inputs, inputsPresent, outputs, outputsPresent, price, needed,
      inflow, inflowSummed, outflow, outflowSummed, rfl, rfl⟩
    exact ⟨inputs, outputs, price, inputsPresent, outputsPresent, needed,
      inflowSummed, outflowSummed⟩
  · rintro ⟨inputs, outputs, price, legs⟩
    exact ⟨inputs, legs.inputsPresent, outputs, legs.outputsPresent, price,
      legs.priceNeeded, inflow, legs.inflowSummed, outflow,
      legs.outflowSummed, rfl, rfl⟩

/-- The net flow of an action is that of its legs. -/
theorem netFlow_eq_ok_iff
    {action : Action}
    {market : Market}
    {side : FlowSide}
    {net : Flow} :
    action.netFlow market side = .ok net ↔
      ∃ inflow outflow inputs outputs price,
        action.Legs market inflow outflow inputs outputs price ∧
          side.net inflow outflow = .ok net := by
  unfold netFlow
  rw [Outcome.bind_eq_ok_iff]
  constructor
  · rintro ⟨⟨inflow, outflow⟩, flowsFound, netFound⟩
    obtain ⟨inputs, outputs, price, legs⟩ := flows_eq_ok_iff.mp flowsFound
    exact ⟨inflow, outflow, inputs, outputs, price, legs,
      Outcome.computing_eq_ok_iff.mp netFound⟩
  · rintro ⟨inflow, outflow, inputs, outputs, price, legs, netFound⟩
    exact ⟨(inflow, outflow),
      flows_eq_ok_iff.mpr ⟨inputs, outputs, price, legs⟩,
      Outcome.computing_eq_ok_iff.mpr netFound⟩

/-- An action moves exactly when one of its two legs holds a coin that moves. -/
theorem moves_eq_false_iff
    {action : Action}
    {pool : Asset}
    {inputs outputs : List Transfer}
    (inputsPresent : action.inputs = some inputs)
    (outputsPresent : action.outputs = some outputs) :
    action.moves pool = false ↔
      Coin.movers pool (Transfer.allCoins inputs) = [] ∧
        Coin.movers pool (Transfer.allCoins outputs) = [] := by
  rw [← List.append_eq_nil_iff, ← Coin.movers_append]
  unfold moves coins Coin.movers
  rw [inputsPresent, outputsPresent, Option.getD_some, Option.getD_some,
    List.filter_eq_nil_iff, List.any_eq_false]

/-- An action with both legs that moves nothing has an empty net flow. -/
theorem netFlow_of_idle
    {market : Market}
    {action : Action}
    {inputs outputs : List Transfer}
    (inputsPresent : action.inputs = some inputs)
    (outputsPresent : action.outputs = some outputs)
    (idle : action.moves market.pool = false)
    (side : FlowSide) :
    action.netFlow market side = .ok .zero := by
  obtain ⟨inputsIdle, outputsIdle⟩ :=
    (moves_eq_false_iff inputsPresent outputsPresent).mp idle
  have empty :
      action.Legs market .zero .zero inputs outputs none := {
    inputsPresent := inputsPresent
    outputsPresent := outputsPresent
    priceNeeded := by
      rw [market.neededPrice_eq inputsPresent outputsPresent, idle]
      rfl
    inflowSummed := Flow.ofCoins_of_idle inputsIdle none
    outflowSummed := Flow.ofCoins_of_idle outputsIdle none
  }
  refine netFlow_eq_ok_iff.mpr
    ⟨.zero, .zero, inputs, outputs, none, empty, ?_⟩
  cases side <;> simp [FlowSide.net]

/-- One leg fails by overflow, or because one of its coins cannot be priced. -/
private theorem failure_of_leg
    {action : Action}
    {market : Market}
    (counted : action.counts market.pool = true)
    {price : Option PriceAt}
    (found :
      ∀ known,
        price = some known →
          market.prices.inRune.get? action.date.second =
            some known.inRune)
    {leg : List Transfer}
    (within :
      ∀ coin ∈ Transfer.allCoins leg, coin ∈ action.coins)
    {quantity : String}
    {failure : ComputationError}
    (failed :
      computing (action.describe quantity)
        (Flow.ofTransfers market.pool price leg) = .error failure) :
    ActionFailure market action failure := by
  obtain ⟨reason, stopped, rfl⟩ := Outcome.computing_eq_error_iff.mp failed
  rcases Flow.failure_of_ofCoins stopped with
    rfl | ⟨known, priced, ⟨coin, member, unpriceable⟩, rfl⟩
  · exact .overflow counted quantity
  · exact .zeroPrice counted (found known priced) (within coin member)
      unpriceable quantity

/-- The flows of an action that counts fail in one of the listed ways. -/
theorem failure_of_flows
    {action : Action}
    {market : Market}
    (counted : action.counts market.pool = true)
    {failure : ComputationError}
    (failed : action.flows market = .error failure) :
    ActionFailure market action failure := by
  unfold flows at failed
  rw [Outcome.bind_eq_error_iff] at failed
  rcases failed with inputsFailed | ⟨inputs, inputsFound, failed⟩
  · obtain ⟨missing, rfl⟩ := part_eq_error_iff.mp inputsFailed
    exact .inputsMissing counted missing
  have inputsPresent := part_eq_ok_iff.mp inputsFound
  rw [Outcome.bind_eq_error_iff] at failed
  rcases failed with outputsFailed | ⟨outputs, outputsFound, failed⟩
  · obtain ⟨missing, rfl⟩ := part_eq_error_iff.mp outputsFailed
    exact .outputsMissing counted missing
  have outputsPresent := part_eq_ok_iff.mp outputsFound
  rw [market.neededPrice_eq inputsPresent outputsPresent,
    Outcome.bind_eq_error_iff] at failed
  rcases failed with priceFailed | ⟨price, priceFound, failed⟩
  · split at priceFailed
    · rename_i moving
      exact Market.failure_of_priceAt counted moving
        (Outcome.map_eq_error_iff.mp priceFailed)
    · cases priceFailed
  have found :
      ∀ known,
        price = some known →
          market.prices.inRune.get? action.date.second =
            some known.inRune := by
    rintro known rfl
    split at priceFound
    · obtain ⟨same, located, shape⟩ := Outcome.map_eq_ok_iff.mp priceFound
      cases shape
      exact (Market.priceAt_eq_ok_iff.mp located).1
    · cases priceFound
  simp only [Outcome.bind_eq_error_iff, Outcome.pure_eq_ok] at failed
  rcases failed with inflow | ⟨_, _, outflow | ⟨_, _, stop⟩⟩
  · exact failure_of_leg counted found
      (by simp +contextual [coins, inputsPresent]) inflow
  · exact failure_of_leg counted found
      (by simp +contextual [coins, outputsPresent]) outflow
  · cases stop

/--
Both series have a price in the second of an action that moves, once its flows
are known.
-/
theorem Legs.prices
    {action : Action}
    {market : Market}
    {inflow outflow : Flow}
    {inputs outputs : List Transfer}
    {price : Option PriceAt}
    (legs : action.Legs market inflow outflow inputs outputs price)
    (moving : action.moves market.pool = true) :
    ∃ known,
      price = some known ∧
        market.prices.inRune.get? action.date.second = some known.inRune ∧
          market.prices.inUsd.get? action.date.second =
            some known.inUsd := by
  have needed := legs.priceNeeded
  rw [market.neededPrice_eq legs.inputsPresent legs.outputsPresent,
    if_pos moving, Outcome.map_eq_ok_iff] at needed
  obtain ⟨known, located, shape⟩ := needed
  exact ⟨known, shape.symm, Market.priceAt_eq_ok_iff.mp located⟩

/--
Every coin of an action could be priced, once its flows are known at a price.
-/
theorem Legs.priceable
    {action : Action}
    {market : Market}
    {inflow outflow : Flow}
    {inputs outputs : List Transfer}
    {known : PriceAt}
    (legs :
      action.Legs market inflow outflow inputs outputs (some known))
    {coin : Coin}
    (member : coin ∈ action.coins) :
    ¬ coin.Unpriceable known := by
  rw [coins, legs.inputsPresent, legs.outputsPresent] at member
  rcases List.mem_append.mp member with inbound | outbound
  · exact Flow.priceable_of_ofCoins legs.inflowSummed inbound
  · exact Flow.priceable_of_ofCoins legs.outflowSummed outbound

/-- The net flow of an action that counts fails in one of the listed ways. -/
theorem failure_of_netFlow
    {action : Action}
    {market : Market}
    (counted : action.counts market.pool = true)
    {side : FlowSide}
    {failure : ComputationError}
    (failed : action.netFlow market side = .error failure) :
    ActionFailure market action failure := by
  unfold netFlow at failed
  rw [Outcome.bind_eq_error_iff] at failed
  rcases failed with flowsFailed | ⟨⟨inflow, outflow⟩, _, netFailed⟩
  · exact failure_of_flows counted flowsFailed
  · obtain ⟨reason, stopped, rfl⟩ :=
      Outcome.computing_eq_error_iff.mp netFailed
    rw [FlowSide.eq_overflow_of_net stopped]
    exact .overflow counted side.description

end Action

namespace FlowTotals

/-- Adding a net flow to the totals fails only by overflow. -/
theorem overflow_of_absorb
    {totals : FlowTotals}
    {action : Action}
    {side : FlowSide}
    {net : Flow}
    {failure : ComputationError}
    (failed : totals.absorb action side net = .error failure) :
    failure =
      .arithmetic .overflow (action.describe side.description) := by
  unfold absorb at failed
  obtain ⟨reason, stopped, rfl⟩ :=
    Outcome.computing_eq_error_iff.mp (Outcome.map_eq_error_iff.mp failed)
  rw [Flow.eq_overflow_of_add stopped]

/-- An action fails in one of the listed ways. -/
theorem failure_of_step
    {market : Market}
    {totals : FlowTotals}
    {action : Action}
    {failure : ComputationError}
    (failed : totals.step market action = .error failure) :
    ActionFailure market action failure := by
  cases counted : action.counts market.pool with
  | false =>
      rw [step_of_uncounted counted] at failed
      split at failed
      · rename_i unlisted
        cases failed
        exact .poolsMissing unlisted.1 unlisted.2
      · cases failed
  | true =>
      obtain ⟨side, sided⟩ := Action.exists_side_of_counts counted
      rw [step_of_side sided, Outcome.bind_eq_error_iff] at failed
      rcases failed with netFailed | ⟨net, _, absorbFailed⟩
      · exact Action.failure_of_netFlow counted netFailed
      · rw [overflow_of_absorb absorbFailed]
        exact .overflow counted side.description

/-- A settled action that was accumulated has a list of pools. -/
theorem pools_of_step
    {market : Market}
    {totals after : FlowTotals}
    {action : Action}
    (stepped : totals.step market action = .ok after)
    (settled : action.isSuccess = true) :
    action.pools.isSome = true := by
  by_contra unlisted
  have missing : action.pools = none := by
    simpa using unlisted
  rw [step_of_pools_missing settled missing] at stepped
  cases stepped

/-- An action that counts and was accumulated has two legs with known flows. -/
theorem legs_of_step
    {market : Market}
    {totals after : FlowTotals}
    {action : Action}
    (stepped : totals.step market action = .ok after)
    (counted : action.counts market.pool = true) :
    ∃ inflow outflow inputs outputs price,
      action.Legs market inflow outflow inputs outputs price := by
  obtain ⟨side, sided⟩ := Action.exists_side_of_counts counted
  rw [step_of_side sided, Outcome.bind_eq_ok_iff] at stepped
  obtain ⟨net, netFound, _⟩ := stepped
  obtain ⟨inflow, outflow, inputs, outputs, price, legs, _⟩ :=
    Action.netFlow_eq_ok_iff.mp netFound
  exact ⟨inflow, outflow, inputs, outputs, price, legs⟩

end FlowTotals

end LiquidityReturns
