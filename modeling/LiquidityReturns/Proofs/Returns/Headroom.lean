import Mathlib
import LiquidityReturns.Proofs.Returns.Accuracy
import LiquidityReturns.Proofs.Returns.Redemption

namespace LiquidityReturns

/-!
# Room for every intermediate result

Whole amounts of a bounded stake, moderate prices and a pool of bounded size
leave room for every number on the way: products of units and depths, values
of coins, running totals however many actions there are, and both returns.  A
computation on such inputs succeeds.
-/

/--
Measured actions whose coins have a bounded stake, a position of at most all
units, and a pool with bounded units and depths at a moderate spot price.
-/
structure Bounded
    (position : Position)
    (state : PoolState)
    (actions : List Action)
    (prices : PriceHistory) : Prop where
  measured :
    ∀ action ∈ actions,
      action.Measured { pool := position.pool, prices := prices }
  stake_le :
    Coin.stake (FlowTotals.movedCoins position.pool actions) ≤ 10 ^ 18
  units_le : position.liquidityUnits.val ≤ state.liquidityUnits.val
  poolUnits_le : state.liquidityUnits.val ≤ 10 ^ 19
  runeDepth_le : state.runeDepth.val ≤ 10 ^ 18
  assetDepth_le : state.assetDepth.val ≤ 10 ^ 18
  spotModerate : state.spotPrice.Moderate

namespace FlowTotals

/--
Totals that follow exact ones of a bounded stake have values within a bound.
-/
theorem Tracks.value_within
    {totals : FlowTotals}
    {exact : FlowSide → ExactFlow}
    {count : ℕ}
    {stake : ℚ}
    (tracks : totals.Tracks exact count stake)
    (stake_le : stake ≤ 10 ^ 18)
    (side : FlowSide) :
    (totals.side side).value.Within (2 * 10 ^ 27) := by
  apply Flow.within_of_near (tracks.near side)
  intro unit
  have exact_le := (tracks.envelope side).value_le unit
  have count_le := (tracks.envelope side).count_le
  push_cast
  linarith

end FlowTotals

namespace ReturnSummary

/-- Flows within bounds that leave room for their sums can be put together. -/
theorem exists_ofFlows_of_within
    {totals : FlowTotals}
    {redeemable : Flow}
    {bound share : ℕ}
    (totalsWithin : ∀ side, (totals.side side).value.Within bound)
    (redeemableWithin : redeemable.value.Within share)
    (fits : bound + bound + share ≤ Decimal.maxCoefficient) :
    ∃ summary, ofFlows totals redeemable = .ok summary := by
  obtain ⟨realized, subtracted, realizedWithin⟩ :=
    (totalsWithin .withdrawn).exists_sub (totalsWithin .added) (by omega)
  obtain ⟨total, added, _⟩ :=
    realizedWithin.exists_add redeemableWithin fits
  exact exists_ofFlows subtracted added

end ReturnSummary

/-- A computation within the bounds succeeds, whatever the number of actions. -/
theorem computeReturns_succeeds_within_bounds
    {position : Position}
    {state : PoolState}
    {actions : List Action}
    {prices : PriceHistory}
    (bounded : Bounded position state actions prices) :
    ∃ summary,
      computeReturns position state actions prices = .ok summary := by
  obtain ⟨totals, accumulated, tracks⟩ :=
    FlowTotals.exists_ofActions_tracks bounded.measured bounded.stake_le
  obtain ⟨redeemable, redeemed, redeemableWithin⟩ :=
    Position.exists_redeemable bounded.units_le bounded.poolUnits_le
      bounded.runeDepth_le bounded.assetDepth_le bounded.spotModerate
  obtain ⟨summary, summarized⟩ :=
    ReturnSummary.exists_ofFlows_of_within
      (tracks.value_within bounded.stake_le) redeemableWithin (by decide)
  exact ⟨summary,
    computeReturns_eq_ok_iff.mpr
      ⟨totals, redeemable, accumulated, redeemed, summarized⟩⟩

/--
Two additions and a withdrawal of whole amounts at moderate prices leave room.
-/
theorem computeReturns_succeeds_within_bounds_sample :
    Bounded Sample.position Sample.state
        [Sample.addition, Sample.withdrawal, Sample.laterAddition]
        Sample.market.prices ∧
      ∃ summary,
        computeReturns Sample.position Sample.state
            [Sample.addition, Sample.withdrawal, Sample.laterAddition]
            Sample.market.prices =
          .ok summary := by
  have measured :
      ∀ action ∈ [Sample.addition, Sample.withdrawal, Sample.laterAddition],
        action.Measured Sample.market := by
    have complete :
        ∀ action ∈
            [Sample.addition, Sample.withdrawal, Sample.laterAddition],
          action.pools.isSome = true ∧
            (action.inputs.isSome = true ∧ action.outputs.isSome = true) ∧
            (Sample.market.priceAt action =
              .ok (Sample.market.quote action)) ∧
            (Sample.market.quote action).Moderate ∧
            ∀ coin ∈ action.movedCoins Sample.market.pool,
              coin.amount.value.den = 1 := by
      decide +kernel
    intro action member
    obtain ⟨listed, legs, priced, moderate, integral⟩ :=
      complete action member
    exact {
      poolsListed := fun _ => listed
      legsPresent := fun _ => legs
      moderatePrice := fun _ _ => ⟨_, priced, moderate⟩
      wholeAmounts := fun coin coinMember =>
        Whole.of_den_eq_one (integral coin coinMember)
    }
  have bounded :
      Bounded Sample.position Sample.state
        [Sample.addition, Sample.withdrawal, Sample.laterAddition]
        Sample.market.prices := {
    measured := measured
    stake_le := by decide +kernel
    units_le := by decide +kernel
    poolUnits_le := by decide +kernel
    runeDepth_le := by decide +kernel
    assetDepth_le := by decide +kernel
    spotModerate := by decide +kernel
  }
  exact ⟨bounded, computeReturns_succeeds_within_bounds bounded⟩

end LiquidityReturns
