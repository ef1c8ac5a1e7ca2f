import Mathlib
import LiquidityReturns.Proofs.Returns.Computability
import LiquidityReturns.Proofs.Returns.NearFlows
import LiquidityReturns.Proofs.Returns.Shares

namespace LiquidityReturns

/-!
# What can be redeemed

At a moderate spot price the shares of both depths have a value, and the value
has a bound.  A position without units redeems nothing, in any state of its
pool.
-/

namespace PoolState

/-- The value of two amounts is the sum of their values at the spot price. -/
theorem spotValue_eq_ok_iff
    {state : PoolState}
    {rune asset : Decimal}
    {value : Valuation} :
    state.spotValue rune asset = .ok value ↔
      ∃ runeWorth assetWorth,
        Valuation.ofRune rune state.spotPrice = .ok runeWorth ∧
          Valuation.ofAsset asset state.spotPrice = .ok assetWorth ∧
            runeWorth.add assetWorth = .ok value := by
  unfold spotValue Valuation.ofRune Valuation.ofAsset Valuation.add
  simp only [Outcome.bind_eq_ok_iff, Outcome.pure_eq_ok, Except.ok.injEq]
  constructor
  · rintro ⟨runeInAsset, divided, assetInRune, multiplied, inRune, runeSum,
      inAsset, assetSum, runeInUsd, runeUsd, assetInUsd, assetUsd, inUsd,
      usdSum, rfl⟩
    exact ⟨_, _, ⟨runeInAsset, divided, runeInUsd, runeUsd, rfl⟩,
      ⟨assetInRune, multiplied, assetInUsd, assetUsd, rfl⟩,
      inRune, runeSum, inAsset, assetSum, inUsd, usdSum, rfl⟩
  · rintro ⟨_, _, ⟨runeInAsset, divided, runeInUsd, runeUsd, rfl⟩,
      ⟨assetInRune, multiplied, assetInUsd, assetUsd, rfl⟩,
      inRune, runeSum, inAsset, assetSum, inUsd, usdSum, rfl⟩
    exact ⟨runeInAsset, divided, assetInRune, multiplied, inRune, runeSum,
      inAsset, assetSum, runeInUsd, runeUsd, assetInUsd, assetUsd, inUsd,
      usdSum, rfl⟩

/-- Nothing is worth nothing at any spot price, a price of zero included. -/
@[simp] theorem spotValue_zero (state : PoolState) :
    state.spotValue .zero .zero = .ok .zero := by
  simp [spotValue, Valuation.zero, Outcome.pure_eq_ok]

end PoolState

namespace Valuation

/-- A value of at most a natural number in every unit of account. -/
def Within (valuation : Valuation) (bound : ℕ) : Prop :=
  ∀ unit, |valuation.valueIn unit| ≤ bound

/-- Values within bounds have a sum within the sum of the bounds. -/
theorem Within.exists_add
    {left right : Valuation}
    {leftBound rightBound : ℕ}
    (leftWithin : left.Within leftBound)
    (rightWithin : right.Within rightBound)
    (fits : leftBound + rightBound ≤ Decimal.maxCoefficient) :
    ∃ sum,
      left.add right = .ok sum ∧
        sum.Within (leftBound + rightBound) := by
  obtain ⟨sum, combined, within⟩ :=
    exists_combine fun unit =>
      Checked.exists_add_le (leftWithin unit) (rightWithin unit) fits
  exact ⟨sum, combined, within⟩

/-- Values within bounds have a difference within the sum of the bounds. -/
theorem Within.exists_sub
    {left right : Valuation}
    {leftBound rightBound : ℕ}
    (leftWithin : left.Within leftBound)
    (rightWithin : right.Within rightBound)
    (fits : leftBound + rightBound ≤ Decimal.maxCoefficient) :
    ∃ difference,
      left.sub right = .ok difference ∧
        difference.Within (leftBound + rightBound) := by
  obtain ⟨difference, combined, within⟩ :=
    exists_combine fun unit =>
      Checked.exists_sub_le (leftWithin unit) (rightWithin unit) fits
  exact ⟨difference, combined, within⟩

end Valuation

namespace Flow

/--
A flow near an exact one has a value within the bound of the exact values and
the error.
-/
theorem within_of_near
    {flow : Flow}
    {exact : ExactFlow}
    {error : ℚ}
    (near : flow.values.Near exact error)
    {bound : ℕ}
    (bounded : ∀ unit, |exact (.value unit)| + error ≤ bound) :
    flow.value.Within bound := by
  intro unit
  have close : |flow.value.valueIn unit - exact (.value unit)| ≤ error :=
    near (.value unit)
  have triangle :=
    abs_sub_abs_le_abs_sub (flow.value.valueIn unit) (exact (.value unit))
  linarith [bounded unit]

end Flow

namespace PoolState

/-- Two amounts have a value at a moderate spot price, and it has a bound. -/
theorem exists_spotValue
    {state : PoolState}
    (moderate : state.spotPrice.Moderate)
    {rune asset : Decimal}
    (rune_le : |rune.value| ≤ 10 ^ 18)
    (asset_le : |asset.value| ≤ 10 ^ 18) :
    ∃ value,
      state.spotValue rune asset = .ok value ∧
        value.Within (4 * 10 ^ 27) := by
  obtain ⟨runeWorth, runeFound, runeNear⟩ :=
    Flow.exists_ofRune moderate rune_le
  obtain ⟨assetWorth, assetFound, assetNear⟩ :=
    Flow.exists_ofAsset moderate asset_le
  have runeWithin : runeWorth.Within (2 * 10 ^ 27) := by
    refine Flow.within_of_near runeNear fun unit => ?_
    have exact_le := moderate.abs_ofRune_le rune.value unit
    push_cast
    linarith
  have assetWithin : assetWorth.Within (2 * 10 ^ 27) := by
    refine Flow.within_of_near assetNear fun unit => ?_
    have exact_le := moderate.abs_ofAsset_le asset.value unit
    push_cast
    linarith
  obtain ⟨value, added, within⟩ :=
    runeWithin.exists_add assetWithin (by decide)
  exact ⟨value,
    spotValue_eq_ok_iff.mpr
      ⟨runeWorth, assetWorth, runeFound, assetFound, added⟩,
    within⟩

end PoolState

namespace Position

/--
A position of at most all units of a moderate pool can be redeemed, for a value
with a bound.
-/
theorem exists_redeemable
    {position : Position}
    {state : PoolState}
    (units_le : position.liquidityUnits.val ≤ state.liquidityUnits.val)
    (poolUnits_le : state.liquidityUnits.val ≤ 10 ^ 19)
    (runeDepth_le : state.runeDepth.val ≤ 10 ^ 18)
    (assetDepth_le : state.assetDepth.val ≤ 10 ^ 18)
    (moderate : state.spotPrice.Moderate) :
    ∃ redeemable,
      position.redeemable state = .ok redeemable ∧
        redeemable.value.Within (4 * 10 ^ 27) := by
  have share :
      ∀ depth : WholeAmount,
        depth.val ≤ 10 ^ 18 →
          ∃ share,
            Checked.proRata position.liquidityUnits depth
                state.liquidityUnits =
              .ok share ∧
            |share.value| ≤ 10 ^ 18 := by
    intro depth depth_le
    have product_le :=
      Nat.mul_le_mul (units_le.trans poolUnits_le) depth_le
    obtain ⟨share, found⟩ :=
      Checked.exists_proRata units_le
        (poolUnits_le.trans (by decide)) (depth_le.trans (by decide))
        (product_le.trans_lt (by decide))
    refine ⟨share, found, ?_⟩
    rw [abs_of_nonneg (Checked.nonneg_of_proRata found)]
    exact (Checked.proRata_le_depth units_le found).trans
      (by exact_mod_cast depth_le)
  obtain ⟨rune, runeShared, rune_le⟩ := share _ runeDepth_le
  obtain ⟨asset, assetShared, asset_le⟩ := share _ assetDepth_le
  obtain ⟨value, valued, within⟩ :=
    state.exists_spotValue moderate rune_le asset_le
  exact ⟨⟨rune, asset, value⟩,
    redeemable_eq_ok_iff.mpr ⟨runeShared, assetShared, valued⟩, within⟩

/-- A position without units redeems nothing, in any state of its pool. -/
theorem redeemable_of_no_units
    {position : Position}
    (none_claimed : position.liquidityUnits.val = 0)
    (state : PoolState) :
    position.redeemable state = .ok .zero :=
  redeemable_eq_ok_iff.mpr
    ⟨Checked.proRata_of_no_units none_claimed _ _,
      Checked.proRata_of_no_units none_claimed _ _, state.spotValue_zero⟩

end Position

end LiquidityReturns
