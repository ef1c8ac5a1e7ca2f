import Mathlib
import LiquidityReturns.Proofs.Returns.Mirror
import LiquidityReturns.Proofs.Returns.StoppedRuns

namespace LiquidityReturns

/-!
# History and current state do not mix

What a summary says about the past depends on the actions and their historical
prices alone, and what can be redeemed depends on the position and the state of
its pool alone.  Each law compares two computations that share one of the two
and differ in the other.
-/

namespace ReturnSummary

/-- A summary tells a history that ended in given totals. -/
structure TellsHistory
    (summary : ReturnSummary)
    (totals : FlowTotals) : Prop where
  added : summary.added = totals.added
  withdrawn : summary.withdrawn = totals.withdrawn
  realizedReturn :
    totals.withdrawn.value.sub totals.added.value =
      .ok summary.realizedReturn

/--
Summaries of one history agree on its flows and on the return realized in it.
-/
theorem TellsHistory.agree
    {summary other : ReturnSummary}
    {totals : FlowTotals}
    (told : summary.TellsHistory totals)
    (otherTold : other.TellsHistory totals) :
    summary.added = other.added ∧
      summary.withdrawn = other.withdrawn ∧
      summary.realizedReturn = other.realizedReturn :=
  ⟨told.added.trans otherTold.added.symm,
    told.withdrawn.trans otherTold.withdrawn.symm,
    Except.ok.inj (told.realizedReturn.symm.trans otherTold.realizedReturn)⟩

end ReturnSummary

section Stages

variable
  {position : Position}
  {state : PoolState}
  {actions : List Action}
  {prices : PriceHistory}
  {summary : ReturnSummary}

/-- A computed summary tells the history of its actions. -/
theorem tellsHistory_of_computeReturns
    (computed :
      computeReturns position state actions prices = .ok summary) :
    ∃ totals,
      FlowTotals.ofActions
          { pool := position.pool, prices := prices } actions =
        .ok totals ∧
      summary.TellsHistory totals := by
  obtain ⟨totals, redeemable, accumulated, _, summarized⟩ :=
    computeReturns_eq_ok_iff.mp computed
  obtain ⟨added, withdrawn, _, realized, _⟩ :=
    ReturnSummary.ofFlows_eq_ok_iff.mp summarized
  exact ⟨totals, accumulated, added, withdrawn, realized⟩

/--
A computed summary shows what can be redeemed, and adds its value to the
realized return.
-/
theorem redeemable_of_computeReturns
    (computed :
      computeReturns position state actions prices = .ok summary) :
    position.redeemable state = .ok summary.redeemable ∧
      summary.realizedReturn.add summary.redeemable.value =
        .ok summary.totalReturn := by
  obtain ⟨totals, redeemable, _, redeemed, summarized⟩ :=
    computeReturns_eq_ok_iff.mp computed
  obtain ⟨_, _, rfl, _, summed⟩ :=
    ReturnSummary.ofFlows_eq_ok_iff.mp summarized
  exact ⟨redeemed, summed⟩

/-- Two states in which a position redeems the same give the same outcome. -/
theorem computeReturns_eq_of_redeemable
    {other : PoolState}
    (same : position.redeemable state = position.redeemable other)
    (actions : List Action)
    (prices : PriceHistory) :
    computeReturns position state actions prices =
      computeReturns position other actions prices := by
  unfold computeReturns
  rw [same]

end Stages

/--
Positions in one pool with the same actions and prices share their history,
whatever their units and the state of the pool, and so they share every failure
of an action.  One position in one state redeems the same whatever its actions
and prices.  A position without units redeems nothing in any state.
-/
theorem history_and_state_do_not_mix :
    (∀ pool prices actions before action failure,
      FlowTotals.StopsAt { pool := pool, prices := prices } actions before
          action failure →
        ∀ units state,
          computeReturns { pool := pool, liquidityUnits := units } state
              actions prices =
            .error failure) ∧
    (∀ pool prices actions units state otherUnits otherState summary other,
      computeReturns { pool := pool, liquidityUnits := units } state
          actions prices = .ok summary →
        computeReturns { pool := pool, liquidityUnits := otherUnits }
            otherState actions prices = .ok other →
          summary.added = other.added ∧
            summary.withdrawn = other.withdrawn ∧
            summary.realizedReturn = other.realizedReturn) ∧
    (∀ position state actions prices otherActions otherPrices summary other,
      computeReturns position state actions prices = .ok summary →
        computeReturns position state otherActions otherPrices =
            .ok other →
          summary.redeemable = other.redeemable) ∧
    ∀ position : Position,
      position.liquidityUnits.val = 0 →
        ∀ state,
          position.redeemable state = .ok .zero ∧
          ∀ actions prices,
            (∀ other,
              computeReturns position state actions prices =
                computeReturns position other actions prices) ∧
            ∀ summary,
              computeReturns position state actions prices = .ok summary →
                summary.redeemable = .zero ∧
                  summary.totalReturn = summary.realizedReturn := by
  refine ⟨?_, ?_, ?_, ?_⟩
  · intro pool prices actions before action failure stopped units state
    have failed := FlowTotals.ofActions_eq_error_iff.mpr ⟨_, _, stopped⟩
    exact computeReturns_of_failed_accumulation failed state
  · intro pool prices actions units state otherUnits otherState summary other
      computed otherComputed
    obtain ⟨totals, accumulated, told⟩ :=
      tellsHistory_of_computeReturns computed
    obtain ⟨otherTotals, otherAccumulated, otherTold⟩ :=
      tellsHistory_of_computeReturns otherComputed
    cases accumulated.symm.trans otherAccumulated
    exact told.agree otherTold
  · intro position state actions prices otherActions otherPrices summary other
      computed otherComputed
    have redeemed := (redeemable_of_computeReturns computed).1
    have otherRedeemed := (redeemable_of_computeReturns otherComputed).1
    exact Except.ok.inj (redeemed.symm.trans otherRedeemed)
  · intro position no_units state
    have nothing := Position.redeemable_of_no_units no_units
    refine ⟨nothing state, fun actions prices => ⟨?_, ?_⟩⟩
    · intro other
      exact
        computeReturns_eq_of_redeemable
          ((nothing state).trans (nothing other).symm) actions prices
    · intro summary computed
      obtain ⟨redeemed, summed⟩ := redeemable_of_computeReturns computed
      have empty : summary.redeemable = .zero :=
        Except.ok.inj (redeemed.symm.trans (nothing state))
      have unchanged :
          summary.realizedReturn.add .zero = .ok summary.totalReturn := by
        rw [empty] at summed
        exact summed
      rw [Valuation.add_zero_right] at unchanged
      exact ⟨empty, (Except.ok.inj unchanged).symm⟩

namespace Sample

/-- A pool without units and prices, with depths as large as can be. -/
def unpricedState : PoolState where
  liquidityUnits := emptied.liquidityUnits
  runeDepth := ⟨Nat.pow 2 128 - 1, by decide +kernel⟩
  assetDepth := ⟨Nat.pow 2 128 - 1, by decide +kernel⟩
  assetPrice := .zero
  assetPriceUsd := .zero

end Sample

/--
A tenth of a pool and no units of an unpriced one share their history and its
failures.
-/
theorem history_and_state_do_not_mix_sample :
    (∃ summary other,
      computeReturns Sample.position Sample.state
          [Sample.addition, Sample.withdrawal] Sample.market.prices =
        .ok summary ∧
      computeReturns Sample.emptied Sample.unpricedState
          [Sample.addition, Sample.withdrawal] Sample.market.prices =
        .ok other ∧
      summary.added = other.added ∧
      summary.withdrawn = other.withdrawn ∧
      summary.realizedReturn = other.realizedReturn ∧
      other.redeemable = .zero ∧
      other.totalReturn = other.realizedReturn) ∧
    ∃ failure,
      computeReturns Sample.position Sample.state
          [Sample.addition, Sample.unlistedAddition] Sample.market.prices =
        .error failure ∧
      computeReturns Sample.emptied Sample.unpricedState
          [Sample.addition, Sample.unlistedAddition] Sample.market.prices =
        .error failure := by
  obtain ⟨sameFailure, sameHistory, _, noUnits⟩ :=
    history_and_state_do_not_mix
  constructor
  · obtain ⟨summary, computed⟩ :=
      Outcome.exists_of_toOption_isSome
        (show (computeReturns Sample.position Sample.state
          [Sample.addition, Sample.withdrawal]
          Sample.market.prices).toOption.isSome = true by decide +kernel)
    obtain ⟨other, otherComputed⟩ :=
      Outcome.exists_of_toOption_isSome
        (show (computeReturns Sample.emptied Sample.unpricedState
          [Sample.addition, Sample.withdrawal]
          Sample.market.prices).toOption.isSome = true by decide +kernel)
    obtain ⟨added, withdrawn, realized⟩ :=
      sameHistory _ _ _ _ _ _ _ _ _ computed otherComputed
    obtain ⟨empty, unchanged⟩ :=
      ((noUnits Sample.emptied rfl Sample.unpricedState).2 _ _).2 _
        otherComputed
    exact ⟨summary, other, computed, otherComputed, added, withdrawn,
      realized, empty, unchanged⟩
  · have stopped :
        ∃ before action failure,
          FlowTotals.StopsAt Sample.market
            [Sample.addition, Sample.unlistedAddition] before action
            failure := by
      obtain ⟨before, accumulated⟩ :=
        Outcome.exists_of_toOption_isSome
          (show (FlowTotals.ofActions Sample.market
            [Sample.addition]).toOption.isSome = true by decide +kernel)
      exact ⟨before, Sample.unlistedAddition, _, [Sample.addition], [], rfl,
        accumulated, rfl⟩
    obtain ⟨before, action, failure, stopped⟩ := stopped
    exact ⟨failure, sameFailure _ _ _ _ _ _ stopped _ _,
      sameFailure _ _ _ _ _ _ stopped _ _⟩

end LiquidityReturns
