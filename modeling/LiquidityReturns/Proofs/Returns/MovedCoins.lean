import Mathlib
import LiquidityReturns.Proofs.Returns.Accumulator
import LiquidityReturns.Proofs.Returns.ActionFailures

namespace LiquidityReturns

/-!
# Only the coins that move matter

A coin that is foreign to the position, or zero, changes no flow, calls for no
price and fails in no way.  What an action does to an accumulator therefore
depends on its legs only through their moving coins, in order: how these are
spread over transfers, what the transfers are called and which idle coins lie
between them makes no difference, failures included.
-/

/--
Two legs that are present and hold the same moving coins in the same order.
-/
def LegsAlike
    (pool : Asset)
    (first second : Option (List Transfer)) :
    Prop :=
  ∃ transfers others,
    first = some transfers ∧
      second = some others ∧
        Coin.movers pool (Transfer.allCoins transfers) =
          Coin.movers pool (Transfer.allCoins others)

namespace Action

/--
Actions that agree in all but their height and the idle coins and transfers of
their legs.
-/
structure MovesAlike (first second : Action) (pool : Asset) : Prop where
  kind_eq : first.kind = second.kind
  status_eq : first.status = second.status
  date_eq : first.date = second.date
  pools_eq : first.pools = second.pools
  inputs_alike : LegsAlike pool first.inputs second.inputs
  outputs_alike : LegsAlike pool first.outputs second.outputs

end Action

/-- Transfers move the position exactly when one of their coins moves. -/
theorem Market.movesPosition_eq
    (market : Market)
    (transfers : List Transfer) :
    market.movesPosition transfers =
      !(Coin.movers market.pool (Transfer.allCoins transfers)).isEmpty := by
  rw [Bool.eq_iff_iff]
  simp [Market.movesPosition, Coin.movers, Coin.moves]

/-- The flow of transfers is that of their moving coins. -/
theorem Flow.ofTransfers_eq
    (pool : Asset)
    (price : Option PriceAt)
    (transfers : List Transfer) :
    ofTransfers pool price transfers =
      ofCoins pool price (Coin.movers pool (Transfer.allCoins transfers)) :=
  (ofCoins_movers pool price _).symm

namespace Action

variable {market : Market} {first second : Action}

theorem MovesAlike.describe_eq
    (alike : first.MovesAlike second market.pool) :
    first.describe = second.describe := by
  funext quantity
  unfold describe
  rw [alike.kind_eq, alike.date_eq]

/-- Actions that move alike look up the same prices. -/
theorem MovesAlike.priceAt_eq
    (alike : first.MovesAlike second market.pool) :
    market.priceAt first = market.priceAt second := by
  unfold Market.priceAt
  rw [alike.kind_eq, alike.date_eq]

/-- Actions that move alike have the same flows, or fail alike to have them. -/
theorem MovesAlike.flows_eq
    (alike : first.MovesAlike second market.pool) :
    first.flows market = second.flows market := by
  obtain ⟨inputs, otherInputs, inputsPresent, otherInputsPresent,
    inputs_eq⟩ := alike.inputs_alike
  obtain ⟨outputs, otherOutputs, outputsPresent, otherOutputsPresent,
    outputs_eq⟩ := alike.outputs_alike
  unfold flows Market.neededPrice
  simp only [part, inputsPresent, otherInputsPresent, outputsPresent,
    otherOutputsPresent, Outcome.ok_bind, Market.movesPosition_eq,
    Flow.ofTransfers_eq, inputs_eq, outputs_eq, alike.describe_eq,
    alike.priceAt_eq]

theorem MovesAlike.netFlow_eq
    (alike : first.MovesAlike second market.pool)
    (side : FlowSide) :
    first.netFlow market side = second.netFlow market side := by
  unfold netFlow
  rw [alike.flows_eq, alike.describe_eq]

theorem MovesAlike.counts_eq
    (alike : first.MovesAlike second market.pool) :
    first.counts market.pool = second.counts market.pool := by
  unfold counts isSuccess touchesOnly? changesPositions
  rw [alike.status_eq, alike.pools_eq, alike.kind_eq]

theorem MovesAlike.side?_eq
    (alike : first.MovesAlike second market.pool) :
    first.side? market.pool = second.side? market.pool := by
  unfold side?
  rw [alike.counts_eq, alike.kind_eq]

end Action

/-- Actions that move alike do the same to totals. -/
theorem FlowTotals.process_of_alike
    {market : Market}
    {first second : Action}
    (alike : first.MovesAlike second market.pool)
    (totals : FlowTotals) :
    totals.process market first = totals.process market second := by
  cases sided : second.side? market.pool with
  | some side =>
      have firstSided : first.side? market.pool = some side :=
        alike.side?_eq.trans sided
      rw [process_of_side sided, process_of_side firstSided,
        alike.netFlow_eq]
      unfold absorb
      rw [alike.describe_eq]
  | none =>
      have ignored := Action.counts_eq_false_of_side?_eq_none sided
      have firstIgnored : first.counts market.pool = false :=
        alike.counts_eq.trans ignored
      rw [process_of_uncounted ignored, process_of_uncounted firstIgnored]
      unfold Action.isSuccess Action.touchesOnly?
      rw [alike.status_eq, alike.pools_eq, alike.kind_eq, alike.date_eq]

/--
An action with both legs that moves nothing is processed without effect, if its
pools are known.
-/
theorem FlowTotals.process_of_idle
    {market : Market}
    {action : Action}
    {inputs outputs : List Transfer}
    (inputsPresent : action.inputs = some inputs)
    (outputsPresent : action.outputs = some outputs)
    (idle : action.moves market.pool = false)
    (listed : action.isSuccess = true → action.pools.isSome = true)
    (totals : FlowTotals) :
    ∃ outcome, totals.process market action = .ok (outcome, totals) := by
  cases sided : action.side? market.pool with
  | some side =>
      have unchanged : totals.absorb action side .zero = .ok totals :=
        absorb_eq_ok_iff.mpr
          ⟨_, Flow.add_zero_right _, replace_side totals side⟩
      refine ⟨side.outcome, ?_⟩
      rw [process_of_side sided,
        Action.netFlow_of_idle inputsPresent outputsPresent idle side,
        Outcome.ok_bind, unchanged]
      rfl
  | none =>
      have ignored := Action.counts_eq_false_of_side?_eq_none sided
      obtain ⟨⟨outcome, after⟩, processed, rfl⟩ :=
        Outcome.map_eq_ok_iff.mp (step_of_ignored ignored listed totals)
      exact ⟨outcome, processed⟩

open Accumulator

/--
Calls with actions that move alike give the same answer and leave the same
totals.  A call with an action of two legs that moves nothing leaves the totals
as they were, in a second without a price or with a zero price as well, and it
succeeds unless the action was settled without a list of pools.
-/
theorem only_moving_coins_matter
    (market : Market)
    (totals : FlowTotals) :
    (∀ first second : Action,
      first.MovesAlike second market.pool →
        (call market first).run.run totals =
          (call market second).run.run totals) ∧
    ∀ action : Action,
      action.inputs.isSome = true →
        action.outputs.isSome = true →
          action.moves market.pool = false →
            ((call market action).run.run totals).2 = totals ∧
            ((∃ outcome,
                ((call market action).run.run totals).1 = .ok outcome) ↔
              (action.isSuccess = true → action.pools.isSome = true)) := by
  constructor
  · intro first second alike
    rw [run_call, run_call, FlowTotals.process_of_alike alike]
  · intro action inputsSome outputsSome idle
    obtain ⟨inputs, inputsPresent⟩ :=
      Option.isSome_iff_exists.mp inputsSome
    obtain ⟨outputs, outputsPresent⟩ :=
      Option.isSome_iff_exists.mp outputsSome
    rw [run_call]
    by_cases listed : action.isSuccess = true → action.pools.isSome = true
    · obtain ⟨outcome, processed⟩ :=
        FlowTotals.process_of_idle inputsPresent outputsPresent idle listed
          totals
      rw [processed]
      exact ⟨rfl, fun _ => listed, fun _ => ⟨outcome, rfl⟩⟩
    · obtain ⟨settled, unlisted⟩ := Classical.not_imp.mp listed
      have missing : action.pools = none := by
        simpa using unlisted
      have failed :
          totals.process market action =
            .error (.malformedAction action.kind action.date .pools) :=
        FlowTotals.step_eq_error_iff.mp
          (FlowTotals.step_of_pools_missing settled missing totals)
      rw [failed]
      refine ⟨rfl, ?_, fun listed' => absurd listed' listed⟩
      rintro ⟨outcome, succeeded⟩
      cases succeeded

namespace Sample

/--
The first addition in two transfers, with a foreign coin and coins of amount
zero.
-/
def scatteredAddition : Action :=
  { addition with
    height := some 7
    inputs := some [
      .ofCoins [⟨⟨"ETH.ETH"⟩, integral 5⟩, ⟨pool, .zero⟩],
      { address := some ⟨"bc1q"⟩
        txId := some "0"
        coins := [⟨pool, integral 100000000⟩] }]
    outputs := some [.ofCoins [], .ofCoins [⟨.rune, .zero⟩]] }

/-- An addition of foreign coins alone, in a second without prices. -/
def foreignAddition : Action :=
  { unpricedAddition with
    inputs := some [.ofCoins [⟨⟨"ETH.ETH"⟩, integral 5⟩]] }

end Sample

/--
Scattered coins are added like one coin, and foreign coins are added without a
price.
-/
theorem only_moving_coins_matter_sample :
    (call Sample.market Sample.scatteredAddition).run.run .zero =
      (call Sample.market Sample.addition).run.run .zero ∧
    ((call Sample.market Sample.foreignAddition).run.run .zero).2 =
      .zero ∧
    ∃ outcome,
      ((call Sample.market Sample.foreignAddition).run.run
        .zero).1 = .ok outcome := by
  obtain ⟨alikeSame, idleUnchanged⟩ :=
    only_moving_coins_matter Sample.market .zero
  constructor
  · apply alikeSame
    exact ⟨rfl, rfl, rfl, rfl,
      ⟨_, _, rfl, rfl, by decide +kernel⟩,
      ⟨_, _, rfl, rfl, by decide +kernel⟩⟩
  · obtain ⟨unchanged, succeeds⟩ :=
      idleUnchanged Sample.foreignAddition rfl rfl (by decide +kernel)
    exact ⟨unchanged, succeeds.mpr fun _ => rfl⟩

/-- The addition of foreign coins without its list of pools. -/
def Sample.unlistedForeignAddition : Action :=
  { foreignAddition with pools := none }

/--
An addition with both legs that moves nothing fails if it was settled without a
list of pools.
-/
theorem unlisted_addition_is_malformed :
    Sample.unlistedForeignAddition.inputs.isSome = true ∧
    Sample.unlistedForeignAddition.outputs.isSome = true ∧
    Sample.unlistedForeignAddition.moves Sample.market.pool = false ∧
    ((call Sample.market Sample.unlistedForeignAddition).run.run .zero).1 =
      .error (.malformedAction .addLiquidity ⟨9000000000⟩ .pools) := by
  refine ⟨rfl, rfl, by decide +kernel, ?_⟩
  rw [run_call]
  rfl

end LiquidityReturns
