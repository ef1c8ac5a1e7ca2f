import Mathlib
import LiquidityReturns.Proofs.Returns.HistoryAndState
import LiquidityReturns.Proofs.Returns.Redemption

namespace LiquidityReturns

/-!
# Larger stakes are worth no less

Every step from a stake to its value rounds, but each keeps the order of what
is not negative, and succeeds below whatever it succeeds for.  `Decimal.UpTo`
carries both through the steps.  More units, deeper reserves and fewer units of
the pool therefore never lower what can be redeemed, and a larger redeemable
value never lowers the total return.
-/

namespace Decimal

/-- A number from zero up to another one. -/
structure UpTo (number bound : Decimal) : Prop where
  nonneg : 0 ≤ number.value
  le : number.value ≤ bound.value

/--
What lies from zero up to a number that can be rounded is rounded from zero up
to it.
-/
theorem exists_nearest?_upTo
    {exact exactBound : ℚ}
    (nonneg : 0 ≤ exact)
    (ordered : exact ≤ exactBound)
    {bound : Decimal}
    (found : nearest? exactBound = some bound) :
    ∃ number, nearest? exact = some number ∧ number.UpTo bound := by
  obtain ⟨number, numberFound, number_le⟩ :=
    exists_nearest?_of_le nonneg ordered found
  exact ⟨number, numberFound,
    value_nonneg_of_nearest? nonneg numberFound, number_le⟩

end Decimal

namespace Checked

variable {left leftBound right rightBound bound : Decimal}

theorem exists_add_upTo
    (leftUpTo : left.UpTo leftBound)
    (rightUpTo : right.UpTo rightBound)
    (added : add leftBound rightBound = .ok bound) :
    ∃ sum, add left right = .ok sum ∧ sum.UpTo bound := by
  obtain ⟨sum, found, upTo⟩ :=
    Decimal.exists_nearest?_upTo
      (add_nonneg leftUpTo.nonneg rightUpTo.nonneg)
      (add_le_add leftUpTo.le rightUpTo.le) (add_eq_ok_iff.mp added)
  exact ⟨sum, add_eq_ok_iff.mpr found, upTo⟩

theorem exists_mul_upTo
    (leftUpTo : left.UpTo leftBound)
    (factor_nonneg : 0 ≤ right.value)
    (multiplied : mul leftBound right = .ok bound) :
    ∃ product, mul left right = .ok product ∧ product.UpTo bound := by
  obtain ⟨product, found, upTo⟩ :=
    Decimal.exists_nearest?_upTo
      (mul_nonneg leftUpTo.nonneg factor_nonneg)
      (mul_le_mul_of_nonneg_right leftUpTo.le factor_nonneg)
      (mul_eq_ok_iff.mp multiplied)
  exact ⟨product, mul_eq_ok_iff.mpr found, upTo⟩

/--
A divisor of zero admits no bound but zero, and below it nothing but zero is
divided.
-/
theorem exists_div_upTo
    (leftUpTo : left.UpTo leftBound)
    (divisor_nonneg : 0 ≤ right.value)
    (divided : div leftBound right = .ok bound) :
    ∃ quotient, div left right = .ok quotient ∧ quotient.UpTo bound := by
  cases zero : right.isZero with
  | true =>
      have bound_isZero : leftBound.isZero = true := by
        by_contra notZero
        rw [div_eq_divisionByZero_iff.mpr ⟨by simpa using notZero, zero⟩]
          at divided
        cases divided
      have left_isZero : left.isZero = true := by
        have bound_eq := (leftBound.isZero_iff_value).mp bound_isZero
        have left_le := leftUpTo.le
        rw [left.isZero_iff_value]
        exact le_antisymm (bound_eq ▸ left_le) leftUpTo.nonneg
      rw [div_of_isZero bound_isZero, Except.ok.injEq] at divided
      subst divided
      exact ⟨.zero, div_of_isZero left_isZero right, by simp, le_rfl⟩
  | false =>
      obtain ⟨quotient, found, upTo⟩ :=
        Decimal.exists_nearest?_upTo
          (div_nonneg leftUpTo.nonneg divisor_nonneg)
          (div_le_div_of_nonneg_right leftUpTo.le divisor_nonneg)
          ((div_eq_ok_iff zero).mp divided)
      exact ⟨quotient, (div_eq_ok_iff zero).mpr found, upTo⟩

/--
The share of a smaller claim that exists lies from zero up to that of the
larger one.
-/
theorem upTo_of_proRata
    {units depth total moreUnits deeper fewerTotal : WholeAmount}
    (units_le : units ≤ moreUnits)
    (depth_le : depth ≤ deeper)
    (total_le : fewerTotal ≤ total)
    {share largerShare : Decimal}
    (shared : proRata units depth total = .ok share)
    (largerShared : proRata moreUnits deeper fewerTotal = .ok largerShare) :
    share.UpTo largerShare :=
  ⟨nonneg_of_proRata shared,
    proRata_mono units_le depth_le total_le shared largerShared⟩

end Checked

/-- Prices that are not negative. -/
structure PriceAt.Nonneg (price : PriceAt) : Prop where
  rune_nonneg : 0 ≤ price.inRune.value
  usd_nonneg : 0 ≤ price.inUsd.value

namespace Valuation

/-- A value from zero up to another one, in every unit of account. -/
def UpTo (valuation bound : Valuation) : Prop :=
  ∀ unit, (valuation.inUnit unit).UpTo (bound.inUnit unit)

theorem exists_ofRune_upTo
    {price : PriceAt}
    (priceNonneg : price.Nonneg)
    {amount amountBound : Decimal}
    (amountUpTo : amount.UpTo amountBound)
    {bound : Valuation}
    (valued : ofRune amountBound price = .ok bound) :
    ∃ worth, ofRune amount price = .ok worth ∧ worth.UpTo bound := by
  obtain ⟨kept, divided, multiplied⟩ := ofRune_eq_ok_iff.mp valued
  obtain ⟨inAsset, inAssetFound, inAssetUpTo⟩ :=
    Checked.exists_div_upTo amountUpTo priceNonneg.rune_nonneg divided
  obtain ⟨inUsd, inUsdFound, inUsdUpTo⟩ :=
    Checked.exists_mul_upTo inAssetUpTo priceNonneg.usd_nonneg multiplied
  refine ⟨⟨amount, inAsset, inUsd⟩,
    ofRune_eq_ok_iff.mpr ⟨rfl, inAssetFound, inUsdFound⟩, ?_⟩
  rintro (_ | _ | _)
  · rw [← kept] at amountUpTo
    exact amountUpTo
  · exact inAssetUpTo
  · exact inUsdUpTo

theorem exists_ofAsset_upTo
    {price : PriceAt}
    (priceNonneg : price.Nonneg)
    {amount amountBound : Decimal}
    (amountUpTo : amount.UpTo amountBound)
    {bound : Valuation}
    (valued : ofAsset amountBound price = .ok bound) :
    ∃ worth, ofAsset amount price = .ok worth ∧ worth.UpTo bound := by
  obtain ⟨kept, runeMultiplied, usdMultiplied⟩ :=
    ofAsset_eq_ok_iff.mp valued
  obtain ⟨inRune, inRuneFound, inRuneUpTo⟩ :=
    Checked.exists_mul_upTo amountUpTo priceNonneg.rune_nonneg
      runeMultiplied
  obtain ⟨inUsd, inUsdFound, inUsdUpTo⟩ :=
    Checked.exists_mul_upTo amountUpTo priceNonneg.usd_nonneg usdMultiplied
  refine ⟨⟨inRune, amount, inUsd⟩,
    ofAsset_eq_ok_iff.mpr ⟨rfl, inRuneFound, inUsdFound⟩, ?_⟩
  rintro (_ | _ | _)
  · exact inRuneUpTo
  · rw [← kept] at amountUpTo
    exact amountUpTo
  · exact inUsdUpTo

theorem exists_add_upTo
    {left leftBound right rightBound bound : Valuation}
    (leftUpTo : left.UpTo leftBound)
    (rightUpTo : right.UpTo rightBound)
    (added : leftBound.add rightBound = .ok bound) :
    ∃ sum, left.add right = .ok sum ∧ sum.UpTo bound :=
  exists_combine fun unit =>
    Checked.exists_add_upTo (leftUpTo unit) (rightUpTo unit)
      (add_eq_ok_iff.mp added unit)

end Valuation

/--
Amounts from zero up to others have a value from zero up to theirs, where
theirs exists.
-/
theorem PoolState.exists_spotValue_upTo
    {state : PoolState}
    (priceNonneg : state.spotPrice.Nonneg)
    {rune runeBound asset assetBound : Decimal}
    (runeUpTo : rune.UpTo runeBound)
    (assetUpTo : asset.UpTo assetBound)
    {bound : Valuation}
    (valued : state.spotValue runeBound assetBound = .ok bound) :
    ∃ value, state.spotValue rune asset = .ok value ∧ value.UpTo bound := by
  obtain ⟨runeWorthBound, assetWorthBound, runeValued, assetValued,
    added⟩ :=
    spotValue_eq_ok_iff.mp valued
  obtain ⟨runeWorth, runeFound, runeWorthUpTo⟩ :=
    Valuation.exists_ofRune_upTo priceNonneg runeUpTo runeValued
  obtain ⟨assetWorth, assetFound, assetWorthUpTo⟩ :=
    Valuation.exists_ofAsset_upTo priceNonneg assetUpTo assetValued
  obtain ⟨value, summed, valueUpTo⟩ :=
    Valuation.exists_add_upTo runeWorthUpTo assetWorthUpTo added
  exact ⟨value,
    spotValue_eq_ok_iff.mpr
      ⟨runeWorth, assetWorth, runeFound, assetFound, summed⟩,
    valueUpTo⟩

/--
A larger stake at the same spot prices: as many units or more, of as many units
of the pool or fewer, in reserves that are as deep or deeper.
-/
structure StakeRaised
    (position larger : Position)
    (state deeper : PoolState) : Prop where
  units_le : position.liquidityUnits ≤ larger.liquidityUnits
  poolUnits_le : deeper.liquidityUnits ≤ state.liquidityUnits
  runeDepth_le : state.runeDepth ≤ deeper.runeDepth
  assetDepth_le : state.assetDepth ≤ deeper.assetDepth
  prices_eq : deeper.spotPrice = state.spotPrice

/-- The value of amounts depends on a state only through its spot prices. -/
theorem PoolState.spotValue_congr
    {state other : PoolState}
    (prices_eq : other.spotPrice = state.spotPrice)
    (rune asset : Decimal) :
    other.spotValue rune asset = state.spotValue rune asset := by
  have price_eq : other.assetPrice = state.assetPrice :=
    congrArg PriceAt.inRune prices_eq
  have usd_eq : other.assetPriceUsd = state.assetPriceUsd :=
    congrArg PriceAt.inUsd prices_eq
  unfold spotValue
  rw [price_eq, usd_eq]

namespace StakeRaised

variable
  {position larger : Position}
  {state deeper : PoolState}
  {less more : Flow}

/-- A larger stake redeems no less of anything. -/
theorem redeemable_le
    (raised : StakeRaised position larger state deeper)
    (priceNonneg : state.spotPrice.Nonneg)
    (redeemed : position.redeemable state = .ok less)
    (largerRedeemed : larger.redeemable deeper = .ok more)
    (part : FlowPart) :
    (less.part part).value ≤ (more.part part).value := by
  obtain ⟨runeShared, assetShared, valued⟩ :=
    Position.redeemable_eq_ok_iff.mp redeemed
  obtain ⟨largerRuneShared, largerAssetShared, largerValued⟩ :=
    Position.redeemable_eq_ok_iff.mp largerRedeemed
  have runeUpTo :=
    Checked.upTo_of_proRata raised.units_le raised.runeDepth_le
      raised.poolUnits_le runeShared largerRuneShared
  have assetUpTo :=
    Checked.upTo_of_proRata raised.units_le raised.assetDepth_le
      raised.poolUnits_le assetShared largerAssetShared
  rw [PoolState.spotValue_congr raised.prices_eq] at largerValued
  obtain ⟨value, found, valueUpTo⟩ :=
    PoolState.exists_spotValue_upTo priceNonneg runeUpTo assetUpTo
      largerValued
  have same : value = less.value :=
    Except.ok.inj (found.symm.trans valued)
  subst same
  rcases part with _ | _ | unit
  · exact runeUpTo.le
  · exact assetUpTo.le
  · exact (valueUpTo unit).le

/--
Where a larger stake in as many units of the pool can be redeemed, so can the
smaller one.
-/
theorem exists_redeemable
    (raised : StakeRaised position larger state deeper)
    (priceNonneg : state.spotPrice.Nonneg)
    (poolUnits_eq : deeper.liquidityUnits = state.liquidityUnits)
    (largerRedeemed : larger.redeemable deeper = .ok more) :
    ∃ less, position.redeemable state = .ok less := by
  obtain ⟨largerRuneShared, largerAssetShared, largerValued⟩ :=
    Position.redeemable_eq_ok_iff.mp largerRedeemed
  rw [poolUnits_eq] at largerRuneShared largerAssetShared
  obtain ⟨rune, runeShared⟩ :=
    Checked.exists_proRata_of_le raised.units_le raised.runeDepth_le
      largerRuneShared
  obtain ⟨asset, assetShared⟩ :=
    Checked.exists_proRata_of_le raised.units_le raised.assetDepth_le
      largerAssetShared
  have runeUpTo :=
    Checked.upTo_of_proRata raised.units_le raised.runeDepth_le le_rfl
      runeShared largerRuneShared
  have assetUpTo :=
    Checked.upTo_of_proRata raised.units_le raised.assetDepth_le le_rfl
      assetShared largerAssetShared
  rw [PoolState.spotValue_congr raised.prices_eq] at largerValued
  obtain ⟨value, valued, _⟩ :=
    PoolState.exists_spotValue_upTo priceNonneg runeUpTo assetUpTo
      largerValued
  exact ⟨⟨rune, asset, value⟩,
    Position.redeemable_eq_ok_iff.mpr ⟨runeShared, assetShared, valued⟩⟩

end StakeRaised

/--
On top of one realized return, a larger redeemable value gives no smaller a
total.
-/
theorem Valuation.valueIn_add_mono
    {realized left right leftTotal rightTotal : Valuation}
    (ordered : ∀ unit, left.valueIn unit ≤ right.valueIn unit)
    (leftAdded : realized.add left = .ok leftTotal)
    (rightAdded : realized.add right = .ok rightTotal)
    (unit : Denomination) :
    leftTotal.valueIn unit ≤ rightTotal.valueIn unit :=
  Decimal.nearest?_mono (add_le_add_right (ordered unit) _)
    (Checked.add_eq_ok_iff.mp (add_eq_ok_iff.mp leftAdded unit))
    (Checked.add_eq_ok_iff.mp (add_eq_ok_iff.mp rightAdded unit))

/--
Computations of one history have one realized return, whatever the units and
the state.
-/
theorem realizedReturn_of_same_history
    {pool : Asset}
    {units otherUnits : WholeAmount}
    {state otherState : PoolState}
    {actions : List Action}
    {prices : PriceHistory}
    {summary other : ReturnSummary}
    (computed :
      computeReturns { pool := pool, liquidityUnits := units } state actions
          prices = .ok summary)
    (otherComputed :
      computeReturns { pool := pool, liquidityUnits := otherUnits }
          otherState actions prices = .ok other) :
    summary.realizedReturn = other.realizedReturn := by
  obtain ⟨totals, accumulated, told⟩ :=
    tellsHistory_of_computeReturns computed
  obtain ⟨otherTotals, otherAccumulated, otherTold⟩ :=
    tellsHistory_of_computeReturns otherComputed
  cases accumulated.symm.trans otherAccumulated
  exact (told.agree otherTold).2.2

/--
At spot prices that are not negative, a larger stake redeems no less of
anything where both stakes can be redeemed, and a smaller stake in as many units
of the pool can be redeemed where the larger one can.  With one history and one
state of the pool, more units never lower the redeemable amounts and values nor
the total return.
-/
theorem larger_stakes_are_worth_no_less
    {state : PoolState}
    (price_nonneg : 0 ≤ state.assetPrice.value)
    (usd_nonneg : 0 ≤ state.assetPriceUsd.value) :
    (∀ position larger deeper,
      StakeRaised position larger state deeper →
        (∀ less more,
          position.redeemable state = .ok less →
            larger.redeemable deeper = .ok more →
              ∀ part,
                (less.part part).value ≤ (more.part part).value) ∧
        (deeper.liquidityUnits = state.liquidityUnits →
          (∃ more, larger.redeemable deeper = .ok more) →
            ∃ less, position.redeemable state = .ok less)) ∧
    ∀ pool units moreUnits actions prices less more,
      units ≤ moreUnits →
        computeReturns { pool := pool, liquidityUnits := units } state
            actions prices = .ok less →
          computeReturns { pool := pool, liquidityUnits := moreUnits } state
              actions prices = .ok more →
            (∀ part,
              (less.redeemable.part part).value ≤
                (more.redeemable.part part).value) ∧
            ∀ unit,
              less.totalReturn.valueIn unit ≤
                more.totalReturn.valueIn unit := by
  have priceNonneg : state.spotPrice.Nonneg := ⟨price_nonneg, usd_nonneg⟩
  refine ⟨?_, ?_⟩
  · intro position larger deeper raised
    refine ⟨?_, ?_⟩
    · intro less more redeemed largerRedeemed
      exact raised.redeemable_le priceNonneg redeemed largerRedeemed
    · rintro poolUnits_eq ⟨more, largerRedeemed⟩
      exact raised.exists_redeemable priceNonneg poolUnits_eq largerRedeemed
  · intro pool units moreUnits actions prices less more units_le computed
      moreComputed
    obtain ⟨redeemed, totaled⟩ := redeemable_of_computeReturns computed
    obtain ⟨moreRedeemed, moreTotaled⟩ :=
      redeemable_of_computeReturns moreComputed
    have raised :
        StakeRaised { pool := pool, liquidityUnits := units }
          { pool := pool, liquidityUnits := moreUnits } state state :=
      ⟨units_le, le_rfl, le_rfl, le_rfl, rfl⟩
    have redeemable_le :=
      raised.redeemable_le priceNonneg redeemed moreRedeemed
    have realized_eq : less.realizedReturn = more.realizedReturn :=
      realizedReturn_of_same_history computed moreComputed
    rw [← realized_eq] at moreTotaled
    exact ⟨redeemable_le, fun unit =>
      Valuation.valueIn_add_mono (fun unit => redeemable_le (.value unit))
        totaled moreTotaled unit⟩

namespace Sample

/-- Three tenths of the pool. -/
def largerPosition : Position where
  pool := pool
  liquidityUnits := whole 30

/-- The pool with a deeper reserve of the base asset and fewer units. -/
def deeperState : PoolState :=
  { state with runeDepth := whole 1000000000007, liquidityUnits := whole 97 }

end Sample

/--
Three times the units redeem no less of anything in a deeper pool with fewer
units, and return no less in total for one history and one state.
-/
theorem larger_stakes_are_worth_no_less_sample :
    0 ≤ Sample.state.assetPrice.value ∧
    0 ≤ Sample.state.assetPriceUsd.value ∧
    (∃ less more,
      Sample.position.redeemable Sample.state = .ok less ∧
      Sample.largerPosition.redeemable Sample.deeperState = .ok more ∧
      ∀ part, (less.part part).value ≤ (more.part part).value) ∧
    ∃ less more,
      computeReturns Sample.position Sample.state
          [Sample.addition, Sample.withdrawal] Sample.market.prices =
        .ok less ∧
      computeReturns Sample.largerPosition Sample.state
          [Sample.addition, Sample.withdrawal] Sample.market.prices =
        .ok more ∧
      ∀ unit,
        less.totalReturn.valueIn unit ≤ more.totalReturn.valueIn unit := by
  have price_nonneg : 0 ≤ Sample.state.assetPrice.value := by
    decide +kernel
  have usd_nonneg : 0 ≤ Sample.state.assetPriceUsd.value := by
    decide +kernel
  have raised :
      StakeRaised Sample.position Sample.largerPosition Sample.state
        Sample.deeperState :=
    ⟨by decide +kernel, by decide +kernel, by decide +kernel, le_rfl, rfl⟩
  obtain ⟨less, redeemed⟩ :=
    Outcome.exists_of_toOption_isSome
      (show (Sample.position.redeemable Sample.state).toOption.isSome =
        true by decide +kernel)
  obtain ⟨more, largerRedeemed⟩ :=
    Outcome.exists_of_toOption_isSome
      (show (Sample.largerPosition.redeemable
        Sample.deeperState).toOption.isSome = true by decide +kernel)
  obtain ⟨summary, computed⟩ :=
    Outcome.exists_of_toOption_isSome
      (show (computeReturns Sample.position Sample.state
        [Sample.addition, Sample.withdrawal]
        Sample.market.prices).toOption.isSome = true by decide +kernel)
  obtain ⟨largerSummary, largerComputed⟩ :=
    Outcome.exists_of_toOption_isSome
      (show (computeReturns Sample.largerPosition Sample.state
        [Sample.addition, Sample.withdrawal]
        Sample.market.prices).toOption.isSome = true by decide +kernel)
  obtain ⟨redeemNoLess, returnNoLess⟩ :=
    larger_stakes_are_worth_no_less price_nonneg usd_nonneg
  have redeemable_le :=
    (redeemNoLess _ _ _ raised).1 less more redeemed largerRedeemed
  have total_le :=
    (returnNoLess _ _ _ _ _ _ _ raised.units_le computed
      largerComputed).2
  exact ⟨price_nonneg, usd_nonneg,
    ⟨less, more, redeemed, largerRedeemed, redeemable_le⟩,
    ⟨summary, largerSummary, computed, largerComputed, total_le⟩⟩

end LiquidityReturns
