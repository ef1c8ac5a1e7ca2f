import Mathlib
import LiquidityReturns.Proofs.Returns.Computability
import LiquidityReturns.Proofs.Returns.NearFlows

namespace LiquidityReturns

/-!
# Accuracy of the totals

Net flows and totals stay near exact arithmetic as the flows of coins do.  The
error of the totals grows with the number of coins that were moved, by at most
one for each of them, and their amounts are exact.
-/

namespace FlowSide

/-- A net flow of near flows exists and is near the exact one. -/
theorem exists_net
    (side : FlowSide)
    {inflow outflow : Flow}
    {inExact outExact : ExactFlow}
    {inError outError : ℚ}
    (inNear : inflow.values.Near inExact inError)
    (outNear : outflow.values.Near outExact outError)
    {inCount outCount : ℕ}
    {inStake outStake : ℚ}
    (inEnvelope : Envelope inExact inCount inStake)
    (outEnvelope : Envelope outExact outCount outStake)
    (stake_le : inStake + outStake ≤ 10 ^ 18)
    (error_le : inError + outError ≤ 10 ^ 18) :
    ∃ net,
      side.net inflow outflow = .ok net ∧
        net.values.Near (side.exactNet inExact outExact)
          (inError + outError + 11 / 100) := by
  cases side with
  | added =>
      exact Flow.exists_sub inNear outNear (inEnvelope.sub outEnvelope)
        stake_le error_le
  | withdrawn =>
      rw [add_comm inError]
      exact Flow.exists_sub outNear inNear (outEnvelope.sub inEnvelope)
        (by linarith) (by linarith)

/-- The bounds of a net flow are the sums of those of the two flows. -/
theorem envelope_exactNet
    (side : FlowSide)
    {inExact outExact : ExactFlow}
    {inCount outCount : ℕ}
    {inStake outStake : ℚ}
    (inEnvelope : Envelope inExact inCount inStake)
    (outEnvelope : Envelope outExact outCount outStake) :
    Envelope (side.exactNet inExact outExact) (inCount + outCount)
      (inStake + outStake) := by
  cases side with
  | added =>
      exact inEnvelope.sub outEnvelope
  | withdrawn =>
      rw [Nat.add_comm, add_comm inStake]
      exact outEnvelope.sub inEnvelope

end FlowSide

namespace Action

/-- What an action must show for its exact net flow to be followed. -/
structure Measured (market : Market) (action : Action) : Prop where
  poolsListed :
    action.isSuccess = true → action.pools.isSome = true
  legsPresent :
    action.counts market.pool = true →
      action.inputs.isSome = true ∧ action.outputs.isSome = true
  moderatePrice :
    action.counts market.pool = true →
      action.moves market.pool = true →
        ∃ price, market.priceAt action = .ok price ∧ price.Moderate
  wholeAmounts :
    ∀ coin ∈ action.movedCoins market.pool, Whole coin.amount.value

/-- An action that counts but moves nothing has an empty net flow. -/
theorem Measured.netFlow_of_idle
    {market : Market}
    {action : Action}
    (measured : action.Measured market)
    (counted : action.counts market.pool = true)
    (idle : action.moves market.pool = false)
    (side : FlowSide) :
    action.netFlow market side = .ok .zero ∧
      action.exactNet market side = 0 ∧
        action.movedCoins market.pool = [] := by
  obtain ⟨inputs, inputsPresent⟩ :=
    Option.isSome_iff_exists.mp (measured.legsPresent counted).1
  obtain ⟨outputs, outputsPresent⟩ :=
    Option.isSome_iff_exists.mp (measured.legsPresent counted).2
  have legs :=
    (moves_eq_false_iff inputsPresent outputsPresent).mp idle
  refine
    ⟨Action.netFlow_of_idle inputsPresent outputsPresent idle side, ?_, ?_⟩
  · unfold exactNet
    rw [inputsPresent, outputsPresent, Option.getD_some, Option.getD_some,
      ExactFlow.ofCoins_of_idle legs.1, ExactFlow.ofCoins_of_idle legs.2]
    cases side <;> simp [FlowSide.exactNet]
  · unfold movedCoins coins
    rw [if_pos counted, inputsPresent, outputsPresent, Option.getD_some,
      Option.getD_some, Coin.movers_append, legs.1, legs.2,
      List.append_nil]

/--
An action that counts and moves something has a net flow near the exact one.
-/
theorem Measured.exists_netFlow
    {market : Market}
    {action : Action}
    (measured : action.Measured market)
    (counted : action.counts market.pool = true)
    (moving : action.moves market.pool = true)
    (stake_le : Coin.stake (action.movedCoins market.pool) ≤ 10 ^ 18)
    (side : FlowSide) :
    ∃ net,
      action.netFlow market side = .ok net ∧
        net.values.Near (action.exactNet market side)
          ((action.movedCoins market.pool).length / 3 + 11 / 100) ∧
          Envelope (action.exactNet market side)
            (action.movedCoins market.pool).length
            (Coin.stake (action.movedCoins market.pool)) := by
  obtain ⟨inputs, inputsPresent⟩ :=
    Option.isSome_iff_exists.mp (measured.legsPresent counted).1
  obtain ⟨outputs, outputsPresent⟩ :=
    Option.isSome_iff_exists.mp (measured.legsPresent counted).2
  obtain ⟨price, priceFound, moderate⟩ :=
    measured.moderatePrice counted moving
  have whole := measured.wholeAmounts
  have moved :
      action.movedCoins market.pool =
        Coin.movers market.pool (Transfer.allCoins inputs) ++
          Coin.movers market.pool (Transfer.allCoins outputs) := by
    simp [movedCoins, counted, coins, inputsPresent, outputsPresent,
      Coin.movers_append]
  rw [moved, List.forall_mem_append] at whole
  rw [moved, Coin.stake_append] at stake_le ⊢
  have inEnvelope := Envelope.ofCoins whole.1 moderate
  have outEnvelope := Envelope.ofCoins whole.2 moderate
  have inCount := inEnvelope.count_le
  have outCount := outEnvelope.count_le
  obtain ⟨inflow, inflowFound, inNear⟩ :=
    Flow.exists_ofCoins moderate whole.1
      (by linarith [outEnvelope.stake_nonneg])
  obtain ⟨outflow, outflowFound, outNear⟩ :=
    Flow.exists_ofCoins moderate whole.2
      (by linarith [inEnvelope.stake_nonneg])
  obtain ⟨net, netFound, netNear⟩ :=
    side.exists_net inNear outNear inEnvelope outEnvelope stake_le
      (by linarith)
  have legs :
      action.Legs market inflow outflow inputs outputs (some price) := {
    inputsPresent := inputsPresent
    outputsPresent := outputsPresent
    priceNeeded := by
      rw [market.neededPrice_eq inputsPresent outputsPresent, if_pos moving,
        priceFound]
      rfl
    inflowSummed := inflowFound
    outflowSummed := outflowFound
  }
  have exact :
      action.exactNet market side =
        side.exactNet
          (ExactFlow.ofCoins market.pool price (Transfer.allCoins inputs))
          (ExactFlow.ofCoins market.pool price
            (Transfer.allCoins outputs)) := by
    unfold exactNet
    rw [inputsPresent, outputsPresent, Option.getD_some, Option.getD_some,
      Market.quote_of_priceAt priceFound]
  rw [exact, List.length_append]
  refine ⟨net, ?_, ?_, side.envelope_exactNet inEnvelope outEnvelope⟩
  · exact netFlow_eq_ok_iff.mpr
      ⟨inflow, outflow, inputs, outputs, some price, legs, netFound⟩
  · push_cast
    rw [add_div]
    exact netNear

end Action

namespace FlowTotals

/--
Totals near exact totals that some coins of some stake make up, with an error
of at most one a coin.
-/
structure Tracks
    (totals : FlowTotals)
    (exact : FlowSide → ExactFlow)
    (count : ℕ)
    (stake : ℚ) : Prop where
  near : ∀ side, (totals.side side).values.Near (exact side) count
  envelope : ∀ side, Envelope (exact side) count stake

theorem tracks_zero : zero.Tracks 0 0 0 where
  near side part := by
    cases part <;> simp [FlowPart.allowed]
  envelope _ := Envelope.zero

/-- A net flow that is near enough keeps the totals near the exact ones. -/
theorem Tracks.exists_absorb
    {totals : FlowTotals}
    {exact : FlowSide → ExactFlow}
    {count : ℕ}
    {stake : ℚ}
    (tracks : totals.Tracks exact count stake)
    {net : Flow}
    {netExact : ExactFlow}
    {netCount : ℕ}
    {netStake : ℚ}
    (moved : 0 < netCount)
    (near : net.values.Near netExact (netCount / 3 + 11 / 100))
    (envelope : Envelope netExact netCount netStake)
    (stake_le : stake + netStake ≤ 10 ^ 18)
    (action : Action)
    (side : FlowSide) :
    ∃ after,
      totals.absorb action side net = .ok after ∧
        after.Tracks
          (fun other => exact other + if other = side then netExact else 0)
          (count + netCount) (stake + netStake) := by
  have grown := (tracks.envelope side).add envelope
  have count_le := (tracks.envelope side).count_le
  have netCount_le := envelope.count_le
  have one_le : (1 : ℚ) ≤ netCount := by
    exact_mod_cast moved
  obtain ⟨sum, added, sum_near⟩ :=
    Flow.exists_add (tracks.near side) near grown stake_le (by linarith)
  refine ⟨totals.replace side sum, ?_, ?_, ?_⟩
  · exact absorb_eq_ok_iff.mpr ⟨sum, added, rfl⟩
  · intro other
    rw [side_replace]
    by_cases same : other = side
    · subst same
      rw [if_pos rfl, if_pos rfl]
      refine sum_near.mono ?_
      push_cast
      linarith
    · rw [if_neg same, if_neg same, add_zero]
      exact (tracks.near other).mono (by push_cast; linarith)
  · intro other
    by_cases same : other = side
    · subst same
      rw [if_pos rfl]
      exact grown
    · rw [if_neg same, add_zero]
      exact (tracks.envelope other).mono grown.count_le
        (by linarith [envelope.stake_nonneg])

/-- One action keeps the totals near the exact ones. -/
theorem Tracks.exists_step
    {market : Market}
    {totals : FlowTotals}
    {exact : FlowSide → ExactFlow}
    {count : ℕ}
    {stake : ℚ}
    (tracks : totals.Tracks exact count stake)
    {action : Action}
    (measured : action.Measured market)
    (stake_le :
      stake + Coin.stake (action.movedCoins market.pool) ≤ 10 ^ 18) :
    ∃ after,
      totals.step market action = .ok after ∧
        after.Tracks
          (fun side => exact side + action.exactFlow market side)
          (count + (action.movedCoins market.pool).length)
          (stake + Coin.stake (action.movedCoins market.pool)) := by
  cases sided : action.side? market.pool with
  | none =>
      have ignored := Action.counts_eq_false_of_side?_eq_none sided
      refine ⟨totals,
        step_of_ignored ignored measured.poolsListed totals, ?_⟩
      simpa [Action.exactFlow, sided, Action.movedCoins, ignored] using tracks
  | some side =>
      have counted := (Action.side?_eq_some_iff.mp sided).1
      have exactFlow_eq :
          ∀ other,
            action.exactFlow market other =
              if other = side then action.exactNet market side else 0 := by
        intro other
        unfold Action.exactFlow
        rw [sided]
        by_cases same : other = side
        · simp [same]
        · simp [same, Ne.symm same]
      simp only [exactFlow_eq, step_of_side sided]
      cases moving : action.moves market.pool with
      | false =>
          obtain ⟨found, exact_zero, none_moved⟩ :=
            measured.netFlow_of_idle counted moving side
          refine ⟨totals, ?_, ?_⟩
          · rw [found, Outcome.ok_bind]
            exact absorb_eq_ok_iff.mpr
              ⟨_, Flow.add_zero_right _, replace_side totals side⟩
          · simpa [exact_zero, none_moved] using tracks
      | true =>
          have staked := (tracks.envelope side).stake_nonneg
          obtain ⟨net, found, near, envelope⟩ :=
            measured.exists_netFlow counted moving (by linarith) side
          have moved : 0 < (action.movedCoins market.pool).length := by
            obtain ⟨coin, member, moves⟩ := List.any_eq_true.mp moving
            refine List.length_pos_of_mem (a := coin) ?_
            simp [Action.movedCoins, counted, Coin.movers, member, moves]
          obtain ⟨after, absorbed, after_tracks⟩ :=
            tracks.exists_absorb moved near envelope stake_le action side
          refine ⟨after, ?_, after_tracks⟩
          rw [found, Outcome.ok_bind, absorbed]

/-- Actions in order keep the totals near the exact ones. -/
theorem Tracks.exists_run
    {market : Market}
    {actions : List Action}
    (measured : ∀ action ∈ actions, action.Measured market)
    {start : FlowTotals}
    {exactStart : FlowSide → ExactFlow}
    {count : ℕ}
    {stake : ℚ}
    (tracks : start.Tracks exactStart count stake)
    (stake_le :
      stake + Coin.stake (movedCoins market.pool actions) ≤ 10 ^ 18) :
    ∃ final,
      actions.foldlM (step market) start = .ok final ∧
        final.Tracks
          (fun side => exactStart side + exact market actions side)
          (count + (movedCoins market.pool actions).length)
          (stake + Coin.stake (movedCoins market.pool actions)) := by
  induction actions generalizing start exactStart count stake with
  | nil =>
      refine ⟨start, rfl, ?_⟩
      simpa [exact, movedCoins] using tracks
  | cons action rest inductionHypothesis =>
      rw [List.forall_mem_cons] at measured
      rw [movedCoins_cons, Coin.stake_append, ← add_assoc] at stake_le ⊢
      have rest_nonneg :=
        Coin.stake_nonneg (movedCoins market.pool rest)
      obtain ⟨middle, stepped, middle_tracks⟩ :=
        tracks.exists_step measured.1 (by linarith)
      obtain ⟨final, run, final_tracks⟩ :=
        inductionHypothesis measured.2 middle_tracks stake_le
      refine ⟨final, ?_, ?_⟩
      · rw [List.foldlM_cons, stepped, Outcome.ok_bind, run]
      · simpa only [exact_cons, List.length_append, add_assoc,
          Nat.add_assoc] using final_tracks

/--
Measured actions of a bounded stake have totals that follow the exact ones.
-/
theorem exists_ofActions_tracks
    {market : Market}
    {actions : List Action}
    (measured : ∀ action ∈ actions, action.Measured market)
    (stake_le : Coin.stake (movedCoins market.pool actions) ≤ 10 ^ 18) :
    ∃ totals,
      ofActions market actions = .ok totals ∧
        totals.Tracks (exact market actions)
          (movedCoins market.pool actions).length
          (Coin.stake (movedCoins market.pool actions)) := by
  obtain ⟨totals, run, tracks⟩ :=
    tracks_zero.exists_run measured (by simpa using stake_le)
  exact ⟨totals, run, by simpa using tracks⟩

/-- Measured actions of a bounded stake have totals near the exact ones. -/
theorem exists_ofActions_near
    {market : Market}
    {actions : List Action}
    (measured : ∀ action ∈ actions, action.Measured market)
    (stake_le : Coin.stake (movedCoins market.pool actions) ≤ 10 ^ 18) :
    ∃ totals,
      ofActions market actions = .ok totals ∧
        ∀ side,
          (totals.side side).values.Near (exact market actions side)
            (movedCoins market.pool actions).length := by
  obtain ⟨totals, run, tracks⟩ :=
    exists_ofActions_tracks measured stake_le
  exact ⟨totals, run, tracks.near⟩

end FlowTotals

namespace ReturnSummary

/-- One side of the totals in a summary. -/
def side (summary : ReturnSummary) : FlowSide → Flow
  | .added =>
      summary.added
  | .withdrawn =>
      summary.withdrawn

/-- A summary keeps the totals that it was made from. -/
theorem side_of_ofFlows
    {totals : FlowTotals}
    {redeemable : Flow}
    {summary : ReturnSummary}
    (summarized : ofFlows totals redeemable = .ok summary)
    (side : FlowSide) :
    summary.side side = totals.side side := by
  obtain ⟨added, withdrawn, _⟩ := ofFlows_eq_ok_iff.mp summarized
  cases side with
  | added =>
      exact added
  | withdrawn =>
      exact withdrawn

end ReturnSummary

/--
The actions of a computation that succeeded are measured if their amounts and
prices are.
-/
theorem measured_of_computeReturns
    {position : Position}
    {state : PoolState}
    {actions : List Action}
    {prices : PriceHistory}
    {summary : ReturnSummary}
    (computed :
      computeReturns position state actions prices = .ok summary)
    (whole :
      ∀ coin ∈ FlowTotals.movedCoins position.pool actions,
        Whole coin.amount.value)
    (moderate :
      ∀ action ∈ actions,
        action.counts position.pool = true →
          action.moves position.pool = true →
            ∀ price,
              Market.priceAt { pool := position.pool, prices := prices }
                  action =
                .ok price →
                  price.Moderate)
    {action : Action}
    (member : action ∈ actions) :
    action.Measured { pool := position.pool, prices := prices } := by
  obtain ⟨totals, _, accumulated, _, _⟩ :=
    computeReturns_eq_ok_iff.mp computed
  obtain ⟨before, after, stepped⟩ :=
    Outcome.exists_step_of_foldlM_ok accumulated member
  refine {
    poolsListed := FlowTotals.pools_of_step stepped
    legsPresent := ?_
    moderatePrice := ?_
    wholeAmounts := ?_
  }
  · intro counted
    obtain ⟨_, _, inputs, outputs, _, legs⟩ :=
      FlowTotals.legs_of_step stepped counted
    simp [legs.inputsPresent, legs.outputsPresent]
  · intro counted moving
    obtain ⟨_, _, _, _, _, legs⟩ := FlowTotals.legs_of_step stepped counted
    obtain ⟨price, _, inRune, inUsd⟩ := legs.prices moving
    have found :
        Market.priceAt { pool := position.pool, prices := prices } action =
          .ok price :=
      Market.priceAt_eq_ok_iff.mpr ⟨inRune, inUsd⟩
    exact ⟨price, found, moderate action member counted moving price found⟩
  · intro coin coinMember
    exact whole coin (List.mem_flatMap.mpr ⟨action, member, coinMember⟩)

/--
With whole amounts of a bounded stake and moderate prices, the totals of a
computation have the exact amounts, and their values are off by at most one
for each coin that was moved.
-/
theorem computeReturns_totals_accurate
    {position : Position}
    {state : PoolState}
    {actions : List Action}
    {prices : PriceHistory}
    {summary : ReturnSummary}
    (computed :
      computeReturns position state actions prices = .ok summary)
    (whole :
      ∀ coin ∈ FlowTotals.movedCoins position.pool actions,
        Whole coin.amount.value)
    (stake_le :
      Coin.stake (FlowTotals.movedCoins position.pool actions) ≤ 10 ^ 18)
    (moderate :
      ∀ action ∈ actions,
        action.counts position.pool = true →
          action.moves position.pool = true →
            ∀ price,
              Market.priceAt { pool := position.pool, prices := prices }
                  action =
                .ok price →
                  price.Moderate)
    (side : FlowSide) :
    (summary.side side).rune.value =
        FlowTotals.exact { pool := position.pool, prices := prices } actions
          side .rune ∧
      (summary.side side).asset.value =
        FlowTotals.exact { pool := position.pool, prices := prices } actions
          side .asset ∧
      ∀ unit,
        |((summary.side side).value.inUnit unit).value -
            FlowTotals.exact { pool := position.pool, prices := prices }
              actions side (.value unit)| ≤
          (FlowTotals.movedCoins position.pool actions).length := by
  obtain ⟨totals, redeemable, accumulated, _, summarized⟩ :=
    computeReturns_eq_ok_iff.mp computed
  obtain ⟨found, run, near⟩ :=
    FlowTotals.exists_ofActions_near
      (fun action member =>
        measured_of_computeReturns computed whole moderate member)
      stake_le
  have same : totals = found :=
    Except.ok.inj (accumulated.symm.trans run)
  rw [ReturnSummary.side_of_ofFlows summarized, same]
  exact ⟨(near side).rune_eq, (near side).asset_eq,
    fun unit => near side (.value unit)⟩

/--
Two additions and a withdrawal have totals within three of the exact ones.
-/
theorem computeReturns_totals_accurate_sample :
    ∃ summary,
      computeReturns Sample.position Sample.state
          [Sample.addition, Sample.withdrawal, Sample.laterAddition]
          Sample.market.prices =
        .ok summary ∧
      summary.added.rune.value =
        FlowTotals.exact Sample.market
          [Sample.addition, Sample.withdrawal, Sample.laterAddition]
          .added .rune ∧
      |(summary.added.value.inUnit .usd).value -
          FlowTotals.exact Sample.market
            [Sample.addition, Sample.withdrawal, Sample.laterAddition]
            .added (.value .usd)| ≤ 3 := by
  obtain ⟨summary, computed⟩ :=
    Outcome.exists_of_toOption_isSome
      (show (computeReturns Sample.position Sample.state
        [Sample.addition, Sample.withdrawal, Sample.laterAddition]
        Sample.market.prices).toOption.isSome = true by decide +kernel)
  have whole :
      ∀ coin ∈
          FlowTotals.movedCoins Sample.position.pool
            [Sample.addition, Sample.withdrawal, Sample.laterAddition],
        Whole coin.amount.value := by
    have integral :
        ∀ coin ∈
            FlowTotals.movedCoins Sample.position.pool
              [Sample.addition, Sample.withdrawal, Sample.laterAddition],
          coin.amount.value.den = 1 := by
      decide +kernel
    exact fun coin member => Whole.of_den_eq_one (integral coin member)
  have moderate :
      ∀ action ∈ [Sample.addition, Sample.withdrawal, Sample.laterAddition],
        action.counts Sample.position.pool = true →
          action.moves Sample.position.pool = true →
            ∀ price,
              Sample.market.priceAt action = .ok price →
                price.Moderate := by
    have quoted :
        ∀ action ∈
            [Sample.addition, Sample.withdrawal, Sample.laterAddition],
          (Sample.market.quote action).Moderate := by
      decide +kernel
    intro action member _ _ price found
    exact Market.quote_of_priceAt found ▸ quoted action member
  have accurate :=
    computeReturns_totals_accurate computed whole (by decide +kernel)
      moderate .added
  have coins :
      ((FlowTotals.movedCoins Sample.position.pool
        [Sample.addition, Sample.withdrawal,
          Sample.laterAddition]).length : ℚ) ≤ 3 := by
    decide +kernel
  exact ⟨summary, computed, accurate.1, (accurate.2.2 .usd).trans coins⟩

end LiquidityReturns
