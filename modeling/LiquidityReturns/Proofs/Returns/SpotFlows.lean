import Mathlib
import LiquidityReturns.Proofs.Returns.Redemption

namespace LiquidityReturns

/-!
# Historical and spot valuation are one rule

The flow of transfers that move one coin of the base asset and then one of the
pool's asset is worth what the two amounts are worth at the same spot price.
The two computations round the same numbers, one coin by coin and the other
unit by unit.  They also fail alike: the only division comes first in both,
and every other step can fail only by overflow.
-/

/-- Computations that succeed alike and divide by zero alike are the same. -/
theorem Outcome.eq_of_agree
    {first second : Except ArithmeticError α}
    (succeed : ∀ value, first = .ok value ↔ second = .ok value)
    (divide :
      first = .error .divisionByZero ↔ second = .error .divisionByZero) :
    first = second := by
  cases first with
  | ok value =>
      exact ((succeed value).mp rfl).symm
  | error failure =>
      cases second with
      | ok value =>
          exact (succeed value).mpr rfl
      | error other =>
          cases failure <;> cases other <;> simp_all

/-- A sum of values never divides by zero. -/
theorem Valuation.add_ne_divisionByZero (left right : Valuation) :
    left.add right ≠ .error .divisionByZero := by
  intro failed
  obtain ⟨unit, stopped⟩ :=
    exists_unit_of_combine_error Checked.add failed
  exact Checked.add_ne_divisionByZero _ _ stopped

/--
The value of two amounts at the spot price is the sum of their values, failures
included.
-/
theorem PoolState.spotValue_eq
    (state : PoolState)
    (rune asset : Decimal) :
    state.spotValue rune asset = (do
      let runeWorth ← Valuation.ofRune rune state.spotPrice
      let assetWorth ← Valuation.ofAsset asset state.spotPrice
      runeWorth.add assetWorth) := by
  apply Outcome.eq_of_agree
  · intro value
    simp only [spotValue_eq_ok_iff, Outcome.bind_eq_ok_iff]
    constructor
    · rintro ⟨runeWorth, assetWorth, runeFound, assetFound, added⟩
      exact ⟨runeWorth, runeFound, assetWorth, assetFound, added⟩
    · rintro ⟨runeWorth, runeFound, assetWorth, assetFound, added⟩
      exact ⟨runeWorth, assetWorth, runeFound, assetFound, added⟩
  · rw [spotValue_eq_divisionByZero_iff]
    simp [Outcome.bind_eq_error_iff, Valuation.add_ne_divisionByZero,
      Valuation.ofAsset_ne_divisionByZero,
      Valuation.ofRune_eq_divisionByZero_iff, spotPrice]

namespace Coin

/-- The coins of the position in a pool, in order. -/
def positionCoins (pool : Asset) (coins : List Coin) : List Coin :=
  coins.filter fun coin => coin.inPosition pool

end Coin

namespace Flow

/-- Foreign coins can be left out. -/
theorem ofCoins_positionCoins
    (pool : Asset)
    (price : Option PriceAt)
    (coins : List Coin) :
    ofCoins pool price (Coin.positionCoins pool coins) =
      ofCoins pool price coins := by
  refine Outcome.foldlM_filter ?_ coins zero
  intro coin foreign flow
  exact addCoin_of_idle (by simp [Coin.moves, foreign]) price flow

/--
The first coin, of the base asset, makes a flow of its amount and its value.
-/
theorem addCoin_rune_zero
    (pool : Asset)
    (price : PriceAt)
    (rune : Decimal) :
    addCoin pool (some price) zero ⟨.rune, rune⟩ =
      (Valuation.ofRune rune price).map fun worth =>
        { rune, asset := .zero, value := worth } := by
  unfold addCoin addAmount addValue Valuation.ofCoin
  rw [Outcome.map_eq_bind]
  simp [Asset.isRune_iff, zero, Outcome.pure_eq_ok, Function.comp_def]

/-- A coin of the pool's asset after it adds its amount and its value. -/
theorem addCoin_asset
    {pool : Asset}
    (other : pool ≠ .rune)
    (price : PriceAt)
    (rune asset : Decimal)
    (worth : Valuation) :
    addCoin pool (some price)
        { rune, asset := .zero, value := worth } ⟨pool, asset⟩ = (do
      let assetWorth ← Valuation.ofAsset asset price
      let value ← worth.add assetWorth
      return { rune, asset, value }) := by
  unfold addCoin addAmount addValue Valuation.ofCoin
  simp [Asset.isRune_iff, other, Outcome.pure_eq_ok]

end Flow

/--
Transfers whose coins of the position are one of the base asset and then one of
the pool's asset have, at the spot price of a state, the flow of both amounts
with their value in that state, and no flow where there is no such value.
-/
theorem transfers_at_spot_price_have_spot_value
    {pool : Asset}
    (other : pool ≠ .rune)
    {transfers : List Transfer}
    {rune asset : Decimal}
    (moved :
      Coin.positionCoins pool (Transfer.allCoins transfers) =
        [⟨.rune, rune⟩, ⟨pool, asset⟩])
    (state : PoolState) :
    Flow.ofTransfers pool (some state.spotPrice) transfers =
      (state.spotValue rune asset).map fun value =>
        { rune, asset, value } := by
  unfold Flow.ofTransfers
  rw [← Flow.ofCoins_positionCoins, moved, state.spotValue_eq,
    Outcome.map_eq_bind]
  unfold Flow.ofCoins
  rw [List.foldlM_cons, Flow.addCoin_rune_zero, Outcome.map_eq_bind]
  simp only [List.foldlM_cons, List.foldlM_nil, bind_assoc, bind_pure]
  refine bind_congr fun runeWorth => ?_
  rw [Function.comp_apply, pure_bind, Flow.addCoin_asset other]
  rfl

namespace Sample

/--
Transfers of coins of the base asset and of the pool's asset, with foreign
coins around them.
-/
def mixedTransfers : List Transfer :=
  [.ofCoins [⟨⟨"ETH.ETH"⟩, integral 5⟩, ⟨.rune, integral 5000⟩],
    .ofCoins [⟨⟨"ETH.ETH"⟩, integral (-3)⟩],
    .ofCoins [⟨pool, integral (-100)⟩]]

/-- The state of the pool without a spot price. -/
def pricelessState : PoolState :=
  { state with assetPrice := .zero }

end Sample

/--
Mixed transfers have a flow at the spot price, and divide by zero where there
is none.
-/
theorem transfers_at_spot_price_have_spot_value_sample :
    Coin.positionCoins Sample.pool
        (Transfer.allCoins Sample.mixedTransfers) =
      [⟨.rune, Sample.integral 5000⟩,
        ⟨Sample.pool, Sample.integral (-100)⟩] ∧
    (∃ value,
      Sample.state.spotValue (Sample.integral 5000)
          (Sample.integral (-100)) =
        .ok value ∧
      Flow.ofTransfers Sample.pool (some Sample.state.spotPrice)
          Sample.mixedTransfers =
        .ok { rune := Sample.integral 5000
              asset := Sample.integral (-100)
              value }) ∧
    Flow.ofTransfers Sample.pool (some Sample.pricelessState.spotPrice)
        Sample.mixedTransfers =
      .error .divisionByZero := by
  have moved :
      Coin.positionCoins Sample.pool
          (Transfer.allCoins Sample.mixedTransfers) =
        [⟨.rune, Sample.integral 5000⟩,
          ⟨Sample.pool, Sample.integral (-100)⟩] := by
    decide +kernel
  have other : Sample.pool ≠ .rune := by
    decide +kernel
  refine ⟨moved, ?_, ?_⟩
  · obtain ⟨value, found⟩ :=
      Outcome.exists_of_toOption_isSome
        (show (Sample.state.spotValue (Sample.integral 5000)
          (Sample.integral (-100))).toOption.isSome = true by decide +kernel)
    refine ⟨value, found, ?_⟩
    rw [transfers_at_spot_price_have_spot_value other moved, found]
    rfl
  · have divided :
        Sample.pricelessState.spotValue (Sample.integral 5000)
            (Sample.integral (-100)) =
          .error .divisionByZero := by
      rw [PoolState.spotValue_eq_divisionByZero_iff]
      decide +kernel
    rw [transfers_at_spot_price_have_spot_value other moved, divided]
    rfl

end LiquidityReturns
