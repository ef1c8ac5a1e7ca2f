import Mathlib
import LiquidityReturns.Proofs.Decimal.Negation
import LiquidityReturns.Proofs.Returns.Redemption

namespace LiquidityReturns

/-!
# Additions and withdrawals mirror each other

The mirror image of an action moves the same coins the other way: its legs are
exchanged, and an addition becomes a withdrawal.  Processing mirrored actions
ends in totals with exchanged sides, and a position that has nothing to redeem
has the negated returns.  Every map here is its own inverse, so each law is
proved in one direction and holds in both.
-/

/-- Additions and withdrawals exchanged. -/
def ActionKind.mirror : ActionKind → ActionKind
  | .addLiquidity =>
      .withdraw
  | .withdraw =>
      .addLiquidity
  | .other name =>
      .other name

/-- The action that moves the same coins the other way. -/
def Action.mirror (action : Action) : Action :=
  { action with
    kind := action.kind.mirror
    inputs := action.outputs
    outputs := action.inputs }

/-- The other side of the totals. -/
def FlowSide.opposite : FlowSide → FlowSide
  | .added =>
      .withdrawn
  | .withdrawn =>
      .added

/-- The totals with their sides exchanged. -/
def FlowTotals.swap (totals : FlowTotals) : FlowTotals where
  added := totals.withdrawn
  withdrawn := totals.added

/-- What the mirror image of an action does to exchanged totals. -/
def ActionOutcome.mirror : ActionOutcome → ActionOutcome
  | .added =>
      .withdrawn
  | .withdrawn =>
      .added
  | outcome =>
      outcome

/-- The negated value in every unit of account. -/
def Valuation.neg (valuation : Valuation) : Valuation where
  inRune := valuation.inRune.neg
  inAsset := valuation.inAsset.neg
  inUsd := valuation.inUsd.neg

/--
The summary with the sides of its totals exchanged and its returns negated.
-/
def ReturnSummary.mirror (summary : ReturnSummary) : ReturnSummary where
  added := summary.withdrawn
  withdrawn := summary.added
  redeemable := summary.redeemable
  realizedReturn := summary.realizedReturn.neg
  totalReturn := summary.totalReturn.neg

namespace Valuation

@[simp] theorem inUnit_neg
    (valuation : Valuation)
    (unit : Denomination) :
    valuation.neg.inUnit unit = (valuation.inUnit unit).neg := by
  cases unit <;> rfl

/-- A difference taken the other way round is the negated difference. -/
theorem sub_swap
    {left right difference : Valuation}
    (subtracted : left.sub right = .ok difference) :
    right.sub left = .ok difference.neg := by
  rw [sub_eq_ok_iff] at subtracted ⊢
  intro unit
  have found := Checked.orOverflow_eq_ok_iff.mp (subtracted unit)
  apply Checked.orOverflow_eq_ok_iff.mpr
  rw [Decimal.sub?_swap, found, inUnit_neg]
  rfl

end Valuation

@[simp] theorem ActionOutcome.mirror_mirror (outcome : ActionOutcome) :
    outcome.mirror.mirror = outcome := by
  cases outcome <;> rfl

namespace Action

theorem mirror_involutive : Function.Involutive mirror := by
  rintro ⟨kind, _⟩
  cases kind <;> rfl

/-- The mirror image of an action counts where the action does. -/
theorem counts_mirror (action : Action) (pool : Asset) :
    action.mirror.counts pool = action.counts pool := by
  rcases action with ⟨kind, _⟩
  cases kind <;> rfl

/-- The mirror image of an action adds to the other side. -/
theorem side?_mirror
    {action : Action}
    {pool : Asset}
    {side : FlowSide}
    (sided : action.side? pool = some side) :
    action.mirror.side? pool = some side.opposite := by
  rw [side?_eq_some_iff] at sided ⊢
  refine ⟨(counts_mirror action pool).trans sided.1, ?_⟩
  have kinds := sided.2
  change action.kind.mirror.side? = some side.opposite
  cases kind : action.kind with
  | addLiquidity =>
      rw [kind] at kinds
      cases kinds
      rfl
  | withdraw =>
      rw [kind] at kinds
      cases kinds
      rfl
  | other name =>
      rw [kind] at kinds
      cases kinds

/-- The mirror image of an action moves a coin where the action does. -/
theorem moves_mirror (action : Action) (pool : Asset) :
    action.mirror.moves pool = action.moves pool := by
  unfold moves coins
  rw [List.any_append, List.any_append, Bool.or_comm]
  rfl

/-- The legs of the mirror image are the legs of the action, exchanged. -/
theorem Legs.mirror
    {action : Action}
    {market : Market}
    {inflow outflow : Flow}
    {inputs outputs : List Transfer}
    {price : Option PriceAt}
    (legs : action.Legs market inflow outflow inputs outputs price) :
    action.mirror.Legs market outflow inflow outputs inputs price where
  inputsPresent := legs.outputsPresent
  outputsPresent := legs.inputsPresent
  priceNeeded := by
    have inputsPresent : action.mirror.inputs = some outputs :=
      legs.outputsPresent
    have outputsPresent : action.mirror.outputs = some inputs :=
      legs.inputsPresent
    have needed := legs.priceNeeded
    rw [market.neededPrice_eq legs.inputsPresent legs.outputsPresent]
      at needed
    rw [market.neededPrice_eq inputsPresent outputsPresent, moves_mirror]
    cases moving : action.moves market.pool with
    | false =>
        rw [moving] at needed
        exact needed
    | true =>
        rw [moving] at needed
        obtain ⟨known, found, rfl⟩ := Outcome.map_eq_ok_iff.mp needed
        -- A missing price is told with the kind; a price depends on the
        -- second alone.
        have samples := Market.priceAt_eq_ok_iff.mp found
        exact Outcome.map_eq_ok_iff.mpr
          ⟨known, Market.priceAt_eq_ok_iff.mpr samples, rfl⟩
  inflowSummed := legs.outflowSummed
  outflowSummed := legs.inflowSummed

/-- The mirror image of an action has the same net flow on the other side. -/
theorem netFlow_mirror
    {action : Action}
    {market : Market}
    {side : FlowSide}
    {net : Flow}
    (found : action.netFlow market side = .ok net) :
    action.mirror.netFlow market side.opposite = .ok net := by
  rw [netFlow_eq_ok_iff] at found ⊢
  obtain ⟨inflow, outflow, inputs, outputs, price, legs, netFound⟩ := found
  refine ⟨outflow, inflow, outputs, inputs, price, legs.mirror, ?_⟩
  cases side with
  | added =>
      exact netFound
  | withdrawn =>
      exact netFound

end Action

namespace FlowTotals

@[simp] theorem swap_swap (totals : FlowTotals) : totals.swap.swap = totals :=
  rfl

/-- Exchanged totals absorb a net flow on the other side. -/
theorem absorb_mirror
    {totals after : FlowTotals}
    {action : Action}
    {side : FlowSide}
    {net : Flow}
    (absorbed : totals.absorb action side net = .ok after) :
    totals.swap.absorb action.mirror side.opposite net =
      .ok after.swap := by
  rw [absorb_eq_ok_iff] at absorbed ⊢
  obtain ⟨sum, added, rfl⟩ := absorbed
  refine ⟨sum, ?_, ?_⟩
  · cases side with
    | added =>
        exact added
    | withdrawn =>
        exact added
  · cases side <;> rfl

/--
An action that does not count is skipped for the same reason in its mirror
image.
-/
private theorem process_mirror_of_uncounted
    {market : Market}
    {totals after : FlowTotals}
    {action : Action}
    {outcome : ActionOutcome}
    (ignored : action.counts market.pool = false)
    (processed : totals.process market action = .ok (outcome, after)) :
    totals.swap.process market action.mirror =
      .ok (outcome.mirror, after.swap) := by
  have mirrorIgnored : action.mirror.counts market.pool = false :=
    (action.counts_mirror market.pool).trans ignored
  have sameStatus : action.mirror.isSuccess = action.isSuccess :=
    rfl
  have samePools :
      action.mirror.touchesOnly? market.pool =
        action.touchesOnly? market.pool :=
    rfl
  rw [process_of_uncounted ignored] at processed
  rw [process_of_uncounted mirrorIgnored, sameStatus, samePools]
  cases settled : action.isSuccess with
  | false =>
      rw [settled] at processed
      cases processed
      rfl
  | true =>
      rw [settled] at processed
      cases touches : action.touchesOnly? market.pool with
      | none =>
          rw [touches] at processed
          cases processed
      | some only =>
          rw [touches] at processed
          cases only <;> cases processed <;> rfl

/--
The mirror image of an action does to exchanged totals what the action does to
the totals.
-/
theorem process_mirror
    {market : Market}
    {totals after : FlowTotals}
    {action : Action}
    {outcome : ActionOutcome}
    (processed : totals.process market action = .ok (outcome, after)) :
    totals.swap.process market action.mirror =
      .ok (outcome.mirror, after.swap) := by
  cases sided : action.side? market.pool with
  | none =>
      exact process_mirror_of_uncounted
        (Action.counts_eq_false_of_side?_eq_none sided) processed
  | some side =>
      rw [process_of_side sided] at processed
      simp only [Outcome.bind_eq_ok_iff, Outcome.pure_eq_ok,
        Except.ok.injEq, Prod.mk.injEq] at processed
      obtain ⟨net, found, sum, absorbed, rfl, rfl⟩ := processed
      rw [process_of_side (Action.side?_mirror sided),
        Action.netFlow_mirror found, Outcome.ok_bind,
        absorb_mirror absorbed, Outcome.ok_bind]
      cases side <;> rfl

/-- Mirrored actions end in exchanged totals. -/
theorem run_mirror
    {market : Market}
    {actions : List Action}
    {start final : FlowTotals}
    (run : actions.foldlM (step market) start = .ok final) :
    (actions.map Action.mirror).foldlM (step market) start.swap =
      .ok final.swap := by
  induction actions generalizing start with
  | nil =>
      cases run
      rfl
  | cons action rest inductionHypothesis =>
      rw [List.foldlM_cons, Outcome.bind_eq_ok_iff] at run
      obtain ⟨middle, stepped, remaining⟩ := run
      obtain ⟨⟨outcome, after⟩, processed, rfl⟩ :=
        Outcome.map_eq_ok_iff.mp stepped
      have mirrored :
          start.swap.step market action.mirror = .ok after.swap :=
        Outcome.map_eq_ok_iff.mpr ⟨_, process_mirror processed, rfl⟩
      rw [List.map_cons, List.foldlM_cons, mirrored, Outcome.ok_bind]
      exact inductionHypothesis remaining

end FlowTotals

namespace ReturnSummary

/-- Exchanged totals have negated returns when nothing can be redeemed. -/
theorem ofFlows_mirror
    {totals : FlowTotals}
    {summary : ReturnSummary}
    (summarized : ofFlows totals .zero = .ok summary) :
    ofFlows totals.swap .zero = .ok summary.mirror := by
  rw [ofFlows_eq_ok_iff] at summarized ⊢
  obtain ⟨added, withdrawn, redeemed, subtracted, summed⟩ := summarized
  refine ⟨withdrawn, added, redeemed, Valuation.sub_swap subtracted, ?_⟩
  have unchanged : summary.realizedReturn = summary.totalReturn :=
    Except.ok.inj ((Valuation.add_zero_right _).symm.trans summed)
  change summary.realizedReturn.neg.add .zero = .ok summary.totalReturn.neg
  rw [Valuation.add_zero_right, unchanged]

end ReturnSummary

/-- Without units, the mirrored actions have the mirrored summary. -/
theorem computeReturns_mirror
    {position : Position}
    (no_units : position.liquidityUnits.val = 0)
    {state : PoolState}
    {actions : List Action}
    {prices : PriceHistory}
    {summary : ReturnSummary}
    (computed :
      computeReturns position state actions prices = .ok summary) :
    computeReturns position state (actions.map Action.mirror) prices =
      .ok summary.mirror := by
  have nothing := Position.redeemable_of_no_units no_units state
  rw [computeReturns_eq_ok_iff] at computed ⊢
  obtain ⟨totals, redeemable, accumulated, redeemed, summarized⟩ := computed
  rw [nothing] at redeemed
  cases redeemed
  exact ⟨totals.swap, .zero, FlowTotals.run_mirror accumulated, nothing,
    ReturnSummary.ofFlows_mirror summarized⟩

/--
An action and its mirror image do the same to totals and to exchanged totals,
and a position without units has mirrored returns from mirrored actions,
whatever the state of its pool.
-/
theorem computeReturns_of_mirrored :
    (∀ market totals action outcome after,
      FlowTotals.process market totals action = .ok (outcome, after) ↔
        FlowTotals.process market totals.swap action.mirror =
          .ok (outcome.mirror, after.swap)) ∧
    ∀ position,
      position.liquidityUnits.val = 0 →
        ∀ state actions prices,
          (computeReturns position state (actions.map Action.mirror)
              prices).toOption =
            (computeReturns position state actions prices).toOption.map
              ReturnSummary.mirror := by
  constructor
  · intro market totals action outcome after
    refine ⟨FlowTotals.process_mirror, fun processed => ?_⟩
    have again := FlowTotals.process_mirror processed
    rw [Action.mirror_involutive action] at again
    simpa using again
  · intro position no_units state actions prices
    refine Outcome.toOption_eq_map ?_ ?_
    · intro summary computed
      exact computeReturns_mirror no_units computed
    · intro summary computed
      have again := computeReturns_mirror no_units computed
      rw [List.map_map, Action.mirror_involutive.comp_self, List.map_id]
        at again
      exact ⟨summary.mirror, again⟩

/-- A position in the sample pool without any units. -/
def Sample.emptied : Position where
  pool := pool
  liquidityUnits := ⟨0, by decide +kernel⟩

/--
Two withdrawals and an addition have the mirrored summary of two additions and
a withdrawal.
-/
theorem computeReturns_of_mirrored_sample :
    (computeReturns Sample.emptied Sample.state
        [Sample.addition, Sample.withdrawal, Sample.laterAddition]
        Sample.market.prices).toOption.isSome = true ∧
    (computeReturns Sample.emptied Sample.state
        ([Sample.addition, Sample.withdrawal, Sample.laterAddition].map
          Action.mirror)
        Sample.market.prices).toOption =
      (computeReturns Sample.emptied Sample.state
        [Sample.addition, Sample.withdrawal, Sample.laterAddition]
        Sample.market.prices).toOption.map ReturnSummary.mirror := by
  constructor
  · decide +kernel
  · exact computeReturns_of_mirrored.2 Sample.emptied rfl Sample.state _
      Sample.market.prices

end LiquidityReturns
