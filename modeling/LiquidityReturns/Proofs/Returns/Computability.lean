import Mathlib
import LiquidityReturns.Proofs.Returns.ActionFailures
import LiquidityReturns.Returns.Summary

namespace LiquidityReturns

/-!
# When returns can be computed

Apart from overflow, a computation of returns stands or falls with six
conditions on its inputs: four on the actions and two on the position's share
of the pool.  `Computable` lists them.  A computation that succeeds meets all
of them, one that meets all of them can only overflow, and a division by zero
comes from one of the three conditions on divisors.
-/

/-- Every settled action has a list of pools. -/
def PoolsListed (actions : List Action) : Prop :=
  ∀ action ∈ actions,
    action.isSuccess = true → action.pools.isSome = true

/-- Every action that counts has both legs. -/
def LegsPresent (pool : Asset) (actions : List Action) : Prop :=
  ∀ action ∈ actions,
    action.counts pool = true →
      action.inputs.isSome = true ∧ action.outputs.isSome = true

/--
Both series have a price in the second of every action that counts and moves.
-/
def PricesPresent
    (pool : Asset)
    (prices : PriceHistory)
    (actions : List Action) :
    Prop :=
  ∀ action ∈ actions,
    action.counts pool = true →
      (∃ coin ∈ action.coins,
        coin.inPosition pool = true ∧ coin.amount.isZero = false) →
        (prices.inRune.get? action.date.second).isSome = true ∧
          (prices.inUsd.get? action.date.second).isSome = true

/--
No action that counts moves the base asset in a second in which the price is
zero.
-/
def RunePriced
    (pool : Asset)
    (prices : PriceHistory)
    (actions : List Action) :
    Prop :=
  ∀ action ∈ actions,
    action.counts pool = true →
      (∃ coin ∈ action.coins,
        coin.asset.isRune = true ∧ coin.amount.isZero = false) →
        ∀ price,
          prices.inRune.get? action.date.second = some price →
            price.isZero = false

/-- The position has no units, or the pool has some. -/
def UnitsIssued (position : Position) (state : PoolState) : Prop :=
  position.liquidityUnits.val = 0 ∨ state.liquidityUnits.val ≠ 0

/-- The redeemable share of the base asset is zero, or the spot price is not. -/
def SharePriced (position : Position) (state : PoolState) : Prop :=
  ∀ share,
    Checked.proRata position.liquidityUnits state.runeDepth
        state.liquidityUnits =
      .ok share →
        share.isZero = true ∨ state.assetPrice.isZero = false

/-- The six conditions on the inputs of a computation of returns. -/
structure Computable
    (position : Position)
    (state : PoolState)
    (actions : List Action)
    (prices : PriceHistory) : Prop where
  poolsListed : PoolsListed actions
  legsPresent : LegsPresent position.pool actions
  pricesPresent : PricesPresent position.pool prices actions
  runePriced : RunePriced position.pool prices actions
  unitsIssued : UnitsIssued position state
  sharePriced : SharePriced position state

namespace FlowTotals

/-- Actions that were accumulated meet the four conditions on actions. -/
theorem conditions_of_ofActions
    {pool : Asset}
    {prices : PriceHistory}
    {actions : List Action}
    {totals : FlowTotals}
    (accumulated :
      ofActions { pool := pool, prices := prices } actions = .ok totals) :
    PoolsListed actions ∧ LegsPresent pool actions ∧
      PricesPresent pool prices actions ∧
        RunePriced pool prices actions := by
  have stepped :
      ∀ action ∈ actions,
        ∃ before after,
          step { pool := pool, prices := prices } before action =
            .ok after :=
    fun action member =>
      Outcome.exists_step_of_foldlM_ok accumulated member
  refine ⟨?_, ?_, ?_, ?_⟩
  · intro action member settled
    obtain ⟨before, after, taken⟩ := stepped action member
    exact pools_of_step taken settled
  · intro action member counted
    obtain ⟨before, after, taken⟩ := stepped action member
    obtain ⟨_, _, inputs, outputs, _, legs⟩ := legs_of_step taken counted
    simp [legs.inputsPresent, legs.outputsPresent]
  · rintro action member counted ⟨coin, coinMember, inPosition, notZero⟩
    obtain ⟨before, after, taken⟩ := stepped action member
    obtain ⟨_, _, _, _, _, legs⟩ := legs_of_step taken counted
    have moving : coin.moves pool = true := by
      simp [Coin.moves, inPosition, notZero]
    obtain ⟨known, _, inRune, inUsd⟩ :=
      legs.prices (Action.moves_of_mem coinMember moving)
    exact ⟨Option.isSome_of_mem inRune, Option.isSome_of_mem inUsd⟩
  · rintro action member counted ⟨coin, coinMember, rune, notZero⟩
      price found
    obtain ⟨before, after, taken⟩ := stepped action member
    obtain ⟨_, _, _, _, _, legs⟩ := legs_of_step taken counted
    have moving : coin.moves pool = true := by
      simp [Coin.moves, Coin.inPosition_of_isRune rune, notZero]
    obtain ⟨known, rfl, inRune, _⟩ :=
      legs.prices (Action.moves_of_mem coinMember moving)
    have same : price = known.inRune :=
      Option.some.inj (found.symm.trans inRune)
    by_contra zero
    refine legs.priceable coinMember ⟨rune, notZero, ?_⟩
    simpa [← same] using zero

/--
Actions fail to be accumulated by overflow, or against one of the four
conditions.
-/
theorem failure_of_ofActions
    {pool : Asset}
    {prices : PriceHistory}
    {actions : List Action}
    {failure : ComputationError}
    (failed :
      ofActions { pool := pool, prices := prices } actions =
        .error failure) :
    (∃ description, failure = .arithmetic .overflow description) ∨
      (¬ RunePriced pool prices actions ∧
        ∃ description,
          failure = .arithmetic .divisionByZero description) ∨
      ((¬ PoolsListed actions ∨ ¬ LegsPresent pool actions ∨
          ¬ PricesPresent pool prices actions) ∧
        ∀ reason description,
          failure ≠ .arithmetic reason description) := by
  obtain ⟨action, member, before, stopped⟩ :=
    Outcome.exists_step_of_foldlM_error failed
  have noPrices :
      action.moves pool = true →
        action.counts pool = true →
          ¬ ((prices.inRune.get? action.date.second).isSome = true ∧
            (prices.inUsd.get? action.date.second).isSome = true) →
            ¬ PricesPresent pool prices actions := by
    intro moving counted missing present
    obtain ⟨coin, coinMember, coinMoves⟩ := List.any_eq_true.mp moving
    refine missing (present action member counted ⟨coin, coinMember, ?_⟩)
    simpa [Coin.moves] using coinMoves
  cases failure_of_step stopped with
  | poolsMissing settled missing =>
      refine .inr (.inr ⟨.inl fun listed => ?_, by simp⟩)
      simpa [missing] using listed action member settled
  | inputsMissing counted missing =>
      refine .inr (.inr ⟨.inr (.inl fun present => ?_), by simp⟩)
      simpa [missing] using (present action member counted).1
  | outputsMissing counted missing =>
      refine .inr (.inr ⟨.inr (.inl fun present => ?_), by simp⟩)
      simpa [missing] using (present action member counted).2
  | runePriceMissing counted moving missing =>
      refine .inr (.inr ⟨.inr (.inr ?_), by simp⟩)
      exact noPrices moving counted (by simp_all)
  | usdPriceMissing counted moving present missing =>
      refine .inr (.inr ⟨.inr (.inr ?_), by simp⟩)
      exact noPrices moving counted (by simp_all)
  | @zeroPrice counted price found coin coinMember unpriceable quantity =>
      refine .inr (.inl ⟨fun priced => ?_, _, rfl⟩)
      have notZero :=
        priced action member counted
          ⟨coin, coinMember, unpriceable.isRune, unpriceable.notZero⟩
          price.inRune found
      simp [unpriceable.priceZero] at notZero
  | overflow counted quantity =>
      exact .inl ⟨_, rfl⟩

end FlowTotals

namespace PoolState

/--
Valuing at the spot price divides by zero exactly when a share that is not zero
meets a price that is.
-/
theorem spotValue_eq_divisionByZero_iff
    {state : PoolState}
    {rune asset : Decimal} :
    state.spotValue rune asset = .error .divisionByZero ↔
      rune.isZero = false ∧ state.assetPrice.isZero = true := by
  rw [← Checked.div_eq_divisionByZero_iff]
  unfold spotValue
  constructor
  · intro failed
    rw [Outcome.bind_eq_error_iff] at failed
    rcases failed with divided | ⟨_, _, rest⟩
    · exact divided
    · simp [Outcome.bind_eq_error_iff, Outcome.pure_eq_ok,
        Checked.mul_ne_divisionByZero, Checked.add_ne_divisionByZero] at rest
  · intro divided
    rw [divided, Outcome.error_bind]

end PoolState

namespace Position

/-- What a position redeems are its shares of both depths and their value. -/
theorem redeemable_eq_ok_iff
    {position : Position}
    {state : PoolState}
    {redeemable : Flow} :
    position.redeemable state = .ok redeemable ↔
      Checked.proRata position.liquidityUnits state.runeDepth
          state.liquidityUnits =
        .ok redeemable.rune ∧
      Checked.proRata position.liquidityUnits state.assetDepth
          state.liquidityUnits =
        .ok redeemable.asset ∧
      state.spotValue redeemable.rune redeemable.asset =
        .ok redeemable.value := by
  unfold Position.redeemable
  simp only [Outcome.bind_eq_ok_iff, Outcome.computing_eq_ok_iff,
    Outcome.pure_eq_ok, Except.ok.injEq]
  constructor
  · rintro ⟨rune, runeShared, asset, assetShared, value, valued, rfl⟩
    exact ⟨runeShared, assetShared, valued⟩
  · rintro ⟨runeShared, assetShared, valued⟩
    exact ⟨_, runeShared, _, assetShared, _, valued, rfl⟩

/--
A position with something to redeem meets the two conditions on its share.
-/
theorem conditions_of_redeemable
    {position : Position}
    {state : PoolState}
    {redeemable : Flow}
    (redeemed : position.redeemable state = .ok redeemable) :
    UnitsIssued position state ∧ SharePriced position state := by
  obtain ⟨shared, _, valued⟩ := redeemable_eq_ok_iff.mp redeemed
  constructor
  · by_contra unissued
    have divided :
        Checked.proRata position.liquidityUnits state.runeDepth
          state.liquidityUnits = .error .divisionByZero := by
      rw [Checked.proRata_eq_divisionByZero_iff]
      unfold UnitsIssued at unissued
      tauto
    rw [divided] at shared
    cases shared
  · intro share found
    have same : redeemable.rune = share :=
      Except.ok.inj (shared.symm.trans found)
    by_contra unpriced
    have divided :
        state.spotValue redeemable.rune redeemable.asset =
          .error .divisionByZero := by
      rw [PoolState.spotValue_eq_divisionByZero_iff, same]
      simpa using unpriced
    rw [divided] at valued
    cases valued

/--
Redemption fails by overflow, or by zero against one of the two conditions.
-/
theorem failure_of_redeemable
    {position : Position}
    {state : PoolState}
    {failure : ComputationError}
    (failed : position.redeemable state = .error failure) :
    ∃ reason description,
      failure = .arithmetic reason description ∧
        (reason = .divisionByZero →
          ¬ UnitsIssued position state ∨
            ¬ SharePriced position state) := by
  unfold Position.redeemable at failed
  simp only [Outcome.bind_eq_error_iff, Outcome.computing_eq_error_iff,
    Outcome.computing_eq_ok_iff, Outcome.pure_eq_ok] at failed
  have unissued :
      ∀ depth,
        Checked.proRata position.liquidityUnits depth
            state.liquidityUnits = .error .divisionByZero →
          ¬ UnitsIssued position state := by
    intro depth divided issued
    obtain ⟨claimed, none_issued⟩ :=
      Checked.proRata_eq_divisionByZero_iff.mp divided
    exact issued.elim claimed fun some_issued => some_issued none_issued
  rcases failed with
    ⟨reason, stopped, rfl⟩ |
      ⟨rune, shared, ⟨reason, stopped, rfl⟩ |
        ⟨asset, _, ⟨reason, stopped, rfl⟩ | ⟨_, _, stop⟩⟩⟩
  · refine ⟨reason, _, rfl, ?_⟩
    rintro rfl
    exact .inl (unissued _ stopped)
  · refine ⟨reason, _, rfl, ?_⟩
    rintro rfl
    exact .inl (unissued _ stopped)
  · refine ⟨reason, _, rfl, ?_⟩
    rintro rfl
    obtain ⟨notZero, priceZero⟩ :=
      PoolState.spotValue_eq_divisionByZero_iff.mp stopped
    refine .inr fun priced => ?_
    rcases priced rune shared with zero | price
    · simp [zero] at notZero
    · simp [price] at priceZero
  · cases stop

end Position

namespace ReturnSummary

/-- A summary holds the flows that it was made from, and their returns. -/
theorem ofFlows_eq_ok_iff
    {totals : FlowTotals}
    {redeemable : Flow}
    {summary : ReturnSummary} :
    ofFlows totals redeemable = .ok summary ↔
      summary.added = totals.added ∧
        summary.withdrawn = totals.withdrawn ∧
        summary.redeemable = redeemable ∧
        totals.withdrawn.value.sub totals.added.value =
          .ok summary.realizedReturn ∧
        summary.realizedReturn.add redeemable.value =
          .ok summary.totalReturn := by
  unfold ofFlows
  simp only [Outcome.bind_eq_ok_iff, Outcome.computing_eq_ok_iff,
    Outcome.pure_eq_ok, Except.ok.injEq]
  constructor
  · rintro ⟨realized, subtracted, total, summed, rfl⟩
    exact ⟨rfl, rfl, rfl, subtracted, summed⟩
  · rintro ⟨added, withdrawn, rfl, subtracted, summed⟩
    exact ⟨_, subtracted, _, summed, by rw [← added, ← withdrawn]⟩

/-- Flows whose two returns exist can be put together. -/
theorem exists_ofFlows
    {totals : FlowTotals}
    {redeemable : Flow}
    {realized total : Valuation}
    (subtracted :
      totals.withdrawn.value.sub totals.added.value = .ok realized)
    (added : realized.add redeemable.value = .ok total) :
    ∃ summary, ofFlows totals redeemable = .ok summary := by
  let summary : ReturnSummary := {
    added := totals.added
    withdrawn := totals.withdrawn
    redeemable
    realizedReturn := realized
    totalReturn := total
  }
  exact ⟨summary,
    ofFlows_eq_ok_iff.mpr ⟨rfl, rfl, rfl, subtracted, added⟩⟩

/-- Putting flows together fails only by overflow. -/
theorem overflow_of_ofFlows
    {totals : FlowTotals}
    {redeemable : Flow}
    {failure : ComputationError}
    (failed : ofFlows totals redeemable = .error failure) :
    ∃ description, failure = .arithmetic .overflow description := by
  unfold ofFlows at failed
  simp only [Outcome.bind_eq_error_iff, Outcome.computing_eq_error_iff,
    Outcome.pure_eq_ok] at failed
  rcases failed with
    ⟨reason, stopped, rfl⟩ |
      ⟨_, _, ⟨reason, stopped, rfl⟩ | ⟨_, _, stop⟩⟩
  · obtain ⟨unit, overflowed⟩ :=
      Valuation.exists_unit_of_combine_error Checked.sub stopped
    exact ⟨_, by rw [Checked.eq_overflow_of_orOverflow overflowed]⟩
  · obtain ⟨unit, overflowed⟩ :=
      Valuation.exists_unit_of_combine_error Checked.add stopped
    exact ⟨_, by rw [Checked.eq_overflow_of_orOverflow overflowed]⟩
  · cases stop

end ReturnSummary

/-- A computation of returns succeeds when its three stages do. -/
theorem computeReturns_eq_ok_iff
    {position : Position}
    {state : PoolState}
    {actions : List Action}
    {prices : PriceHistory}
    {summary : ReturnSummary} :
    computeReturns position state actions prices = .ok summary ↔
      ∃ totals redeemable,
        FlowTotals.ofActions
            { pool := position.pool, prices := prices } actions =
          .ok totals ∧
        position.redeemable state = .ok redeemable ∧
        ReturnSummary.ofFlows totals redeemable = .ok summary := by
  unfold computeReturns
  simp only [Outcome.bind_eq_ok_iff]
  constructor
  · rintro ⟨totals, accumulated, redeemable, redeemed, summarized⟩
    exact ⟨totals, redeemable, accumulated, redeemed, summarized⟩
  · rintro ⟨totals, redeemable, accumulated, redeemed, summarized⟩
    exact ⟨totals, accumulated, redeemable, redeemed, summarized⟩

/-- The stage at which a computation of returns failed. -/
theorem stage_of_failed_computeReturns
    {position : Position}
    {state : PoolState}
    {actions : List Action}
    {prices : PriceHistory}
    {failure : ComputationError}
    (failed :
      computeReturns position state actions prices = .error failure) :
    FlowTotals.ofActions
        { pool := position.pool, prices := prices } actions =
      .error failure ∨
    position.redeemable state = .error failure ∨
    ∃ totals redeemable,
      ReturnSummary.ofFlows totals redeemable = .error failure := by
  unfold computeReturns at failed
  simp only [Outcome.bind_eq_error_iff] at failed
  rcases failed with
    accumulation | ⟨totals, _, redemption | ⟨redeemable, _, summary⟩⟩
  · exact .inl accumulation
  · exact .inr (.inl redemption)
  · exact .inr (.inr ⟨totals, redeemable, summary⟩)

/--
A computation that fails otherwise than in arithmetic fails on one of its
actions.
-/
theorem exists_action_of_computeReturns
    {position : Position}
    {state : PoolState}
    {actions : List Action}
    {prices : PriceHistory}
    {failure : ComputationError}
    (failed :
      computeReturns position state actions prices = .error failure)
    (notArithmetic :
      ∀ reason description, failure ≠ .arithmetic reason description) :
    ∃ action ∈ actions,
      ActionFailure { pool := position.pool, prices := prices } action
        failure := by
  rcases stage_of_failed_computeReturns failed with
    accumulation | redemption | ⟨totals, redeemable, summary⟩
  · obtain ⟨action, member, before, stopped⟩ :=
      Outcome.exists_step_of_foldlM_error accumulation
    exact ⟨action, member, FlowTotals.failure_of_step stopped⟩
  · obtain ⟨reason, description, same, _⟩ :=
      Position.failure_of_redeemable redemption
    exact (notArithmetic reason description same).elim
  · obtain ⟨description, same⟩ := ReturnSummary.overflow_of_ofFlows summary
    exact (notArithmetic .overflow description same).elim

/-- A computation that succeeds meets the six conditions. -/
theorem computable_of_computeReturns
    {position : Position}
    {state : PoolState}
    {actions : List Action}
    {prices : PriceHistory}
    {summary : ReturnSummary}
    (computed :
      computeReturns position state actions prices = .ok summary) :
    Computable position state actions prices := by
  obtain ⟨totals, redeemable, accumulated, redeemed, _⟩ :=
    computeReturns_eq_ok_iff.mp computed
  obtain ⟨poolsListed, legsPresent, pricesPresent, runePriced⟩ :=
    FlowTotals.conditions_of_ofActions accumulated
  obtain ⟨unitsIssued, sharePriced⟩ :=
    Position.conditions_of_redeemable redeemed
  exact ⟨poolsListed, legsPresent, pricesPresent, runePriced, unitsIssued,
    sharePriced⟩

/-- A computation that meets the six conditions fails only by overflow. -/
theorem overflow_of_computable
    {position : Position}
    {state : PoolState}
    {actions : List Action}
    {prices : PriceHistory}
    {failure : ComputationError}
    (computable : Computable position state actions prices)
    (failed :
      computeReturns position state actions prices = .error failure) :
    ∃ description, failure = .arithmetic .overflow description := by
  rcases stage_of_failed_computeReturns failed with
    accumulation | redemption | ⟨totals, redeemable, summary⟩
  · rcases FlowTotals.failure_of_ofActions accumulation with
      overflow | ⟨unpriced, _⟩ | ⟨broken, _⟩
    · exact overflow
    · exact (unpriced computable.runePriced).elim
    · rcases broken with unlisted | noLegs | noPrices
      · exact (unlisted computable.poolsListed).elim
      · exact (noLegs computable.legsPresent).elim
      · exact (noPrices computable.pricesPresent).elim
  · obtain ⟨reason, description, rfl, broken⟩ :=
      Position.failure_of_redeemable redemption
    cases reason with
    | overflow =>
        exact ⟨description, rfl⟩
    | divisionByZero =>
        rcases broken rfl with unissued | unpriced
        · exact (unissued computable.unitsIssued).elim
        · exact (unpriced computable.sharePriced).elim
  · exact ReturnSummary.overflow_of_ofFlows summary

/-- A division by zero breaks one of the conditions on divisors. -/
theorem condition_broken_of_divisionByZero
    {position : Position}
    {state : PoolState}
    {actions : List Action}
    {prices : PriceHistory}
    {description : String}
    (divided :
      computeReturns position state actions prices =
        .error (.arithmetic .divisionByZero description)) :
    ¬ RunePriced position.pool prices actions ∨
      ¬ UnitsIssued position state ∨
        ¬ SharePriced position state := by
  rcases stage_of_failed_computeReturns divided with
    accumulation | redemption | ⟨totals, redeemable, summary⟩
  · rcases FlowTotals.failure_of_ofActions accumulation with
      ⟨_, overflow⟩ | ⟨unpriced, _⟩ | ⟨_, notArithmetic⟩
    · cases overflow
    · exact .inl unpriced
    · exact (notArithmetic _ _ rfl).elim
  · obtain ⟨reason, _, shape, broken⟩ :=
      Position.failure_of_redeemable redemption
    cases shape
    exact .inr (broken rfl)
  · obtain ⟨_, overflow⟩ := ReturnSummary.overflow_of_ofFlows summary
    cases overflow

/--
The six conditions are necessary; when they hold a computation can only
overflow; and a division by zero breaks one of the three on divisors.
-/
theorem computeReturns_fails_only_against_conditions
    (position : Position)
    (state : PoolState)
    (actions : List Action)
    (prices : PriceHistory) :
    ((∃ summary,
        computeReturns position state actions prices = .ok summary) →
      Computable position state actions prices) ∧
    (Computable position state actions prices →
      (∃ summary,
        computeReturns position state actions prices = .ok summary) ∨
      ∃ description,
        computeReturns position state actions prices =
          .error (.arithmetic .overflow description)) ∧
    (∀ description,
      computeReturns position state actions prices =
          .error (.arithmetic .divisionByZero description) →
        ¬ RunePriced position.pool prices actions ∨
          ¬ UnitsIssued position state ∨
            ¬ SharePriced position state) := by
  refine ⟨?_, ?_, ?_⟩
  · rintro ⟨summary, computed⟩
    exact computable_of_computeReturns computed
  · intro computable
    cases outcome : computeReturns position state actions prices with
    | ok summary =>
        exact .inl ⟨summary, rfl⟩
    | error failure =>
        obtain ⟨description, rfl⟩ :=
          overflow_of_computable computable outcome
        exact .inr ⟨description, rfl⟩
  · intro description divided
    exact condition_broken_of_divisionByZero divided

namespace Sample

/-- A pool of an asset other than the base asset. -/
def pool : Asset :=
  ⟨"BTC.BTC"⟩

/-- An integer as a number, zero if it does not fit. -/
def integral (integer : Int) : Decimal :=
  (Decimal.ofInt? integer).getD .zero

/-- One whole coin of the pool's asset, added in the first second. -/
def addition : Action :=
  (Action.inPool .addLiquidity .success ⟨1000000000⟩ pool).addInput
    (.ofCoins [⟨pool, integral 100000000⟩])

/-- Fifty whole coins of the base asset, added in the second second. -/
def laterAddition : Action :=
  (Action.inPool .addLiquidity .success ⟨2000000000⟩ pool).addInput
    (.ofCoins [⟨.rune, integral 5000000000⟩])

/--
Ten whole coins of the base asset, withdrawn halfway through the second second.
-/
def withdrawal : Action :=
  (Action.inPool .withdraw .success ⟨2500000000⟩ pool).addOutput
    (.ofCoins [⟨.rune, integral 1000000000⟩])

/-- The prices in the two seconds in which the actions fall. -/
def samples : List PriceSample :=
  [⟨⟨1⟩, integral 20, integral 40000⟩,
    ⟨⟨2⟩, integral 25, integral 50000⟩]

/-- The market of the pool at these prices. -/
def market : Market where
  pool := pool
  prices := .ofSamples samples

/-- A tenth of the pool. -/
def position : Position where
  pool := pool
  liquidityUnits := ⟨10, by decide +kernel⟩

/-- A pool with reserves of both assets at the first price. -/
def state : PoolState where
  liquidityUnits := ⟨100, by decide +kernel⟩
  runeDepth := ⟨1000000000000, by decide +kernel⟩
  assetDepth := ⟨50000000000, by decide +kernel⟩
  assetPrice := integral 20
  assetPriceUsd := integral 40000

end Sample

example :
    (computeReturns Sample.position Sample.state
      [Sample.addition, Sample.withdrawal, Sample.laterAddition]
      Sample.market.prices).toOption.isSome = true := by
  decide +kernel

end LiquidityReturns
