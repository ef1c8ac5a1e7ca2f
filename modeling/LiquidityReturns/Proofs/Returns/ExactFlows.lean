import Mathlib
import LiquidityReturns.Proofs.Returns.ActionFailures

namespace LiquidityReturns

/-!
# Flows in exact arithmetic

The flows of coins and actions are defined here a second time, over the
rational numbers and without rounding.  `Envelope` bounds such a flow by the
number of coins it is made of and by the sum of their magnitudes; at moderate
prices both grow additively from coins to legs, actions and totals.
-/

/-- A rational number that is an integer. -/
def Whole (number : ℚ) : Prop :=
  ∃ integer : ℤ, number = integer

namespace Whole

theorem zero : Whole 0 :=
  ⟨0, by simp⟩

theorem of_den_eq_one {number : ℚ} (integral : number.den = 1) :
    Whole number :=
  ⟨number.num, (Rat.coe_int_num_of_den_eq_one integral).symm⟩

theorem add
    {left right : ℚ}
    (leftWhole : Whole left)
    (rightWhole : Whole right) :
    Whole (left + right) := by
  obtain ⟨leftInteger, rfl⟩ := leftWhole
  obtain ⟨rightInteger, rfl⟩ := rightWhole
  exact ⟨leftInteger + rightInteger, by push_cast; rfl⟩

theorem sub
    {left right : ℚ}
    (leftWhole : Whole left)
    (rightWhole : Whole right) :
    Whole (left - right) := by
  obtain ⟨leftInteger, rfl⟩ := leftWhole
  obtain ⟨rightInteger, rfl⟩ := rightWhole
  exact ⟨leftInteger - rightInteger, by push_cast; rfl⟩

/-- A whole number other than zero has a magnitude of at least one. -/
theorem one_le_abs
    {number : ℚ}
    (whole : Whole number)
    (notZero : number ≠ 0) :
    1 ≤ |number| := by
  obtain ⟨integer, rfl⟩ := whole
  have magnitude : 1 ≤ |integer| :=
    Int.one_le_abs (by exact_mod_cast notZero)
  exact_mod_cast magnitude

end Whole

namespace Coin

/-- The sum of the magnitudes of coins. -/
def stake (coins : List Coin) : ℚ :=
  (coins.map fun coin => |coin.amount.value|).sum

@[simp] theorem stake_nil : stake [] = 0 :=
  rfl

@[simp] theorem stake_cons (coin : Coin) (rest : List Coin) :
    stake (coin :: rest) = |coin.amount.value| + stake rest :=
  List.sum_cons

@[simp] theorem stake_append (left right : List Coin) :
    stake (left ++ right) = stake left + stake right := by
  simp [stake]

theorem stake_nonneg (coins : List Coin) : 0 ≤ stake coins :=
  List.sum_nonneg (by simp +contextual)

end Coin

/-- One exact number for each part of a flow. -/
abbrev ExactFlow :=
  FlowPart → ℚ

namespace ExactFlow

/-- An amount of the base asset and its values at a price. -/
def ofRune (amount : ℚ) (price : PriceAt) : ExactFlow
  | .rune =>
      amount
  | .asset =>
      0
  | .value .rune =>
      amount
  | .value .asset =>
      amount / price.inRune.value
  | .value .usd =>
      amount / price.inRune.value * price.inUsd.value

/-- An amount of the pool's asset and its values at a price. -/
def ofAsset (amount : ℚ) (price : PriceAt) : ExactFlow
  | .rune =>
      0
  | .asset =>
      amount
  | .value .rune =>
      amount * price.inRune.value
  | .value .asset =>
      amount
  | .value .usd =>
      amount * price.inUsd.value

/-- The flow of one coin; a coin outside the position has none. -/
def ofCoin (pool : Asset) (price : PriceAt) (coin : Coin) : ExactFlow :=
  if coin.asset.isRune then
    ofRune coin.amount.value price
  else if coin.asset = pool then
    ofAsset coin.amount.value price
  else
    0

def ofCoins
    (pool : Asset)
    (price : PriceAt)
    (coins : List Coin) :
    ExactFlow :=
  (coins.map (ofCoin pool price)).sum

@[simp] theorem ofCoins_nil (pool : Asset) (price : PriceAt) :
    ofCoins pool price [] = 0 :=
  rfl

@[simp] theorem ofCoins_cons
    (pool : Asset)
    (price : PriceAt)
    (coin : Coin)
    (rest : List Coin) :
    ofCoins pool price (coin :: rest) =
      ofCoin pool price coin + ofCoins pool price rest :=
  List.sum_cons

/-- A coin that moves nothing has no flow. -/
theorem ofCoin_of_idle
    {coin : Coin}
    {pool : Asset}
    (idle : coin.moves pool = false)
    (price : PriceAt) :
    ofCoin pool price coin = 0 := by
  cases inside : coin.inPosition pool with
  | false =>
      simp only [Coin.inPosition, Bool.or_eq_false_iff,
        decide_eq_false_iff_not] at inside
      simp [ofCoin, inside.1, inside.2]
  | true =>
      have amount := Coin.amount_eq_zero_of_not_moves idle inside
      funext part
      unfold ofCoin
      split
      · rcases part with _ | _ | _ | _ | _ <;> simp [ofRune, amount]
      · split
        · rcases part with _ | _ | _ | _ | _ <;> simp [ofAsset, amount]
        · rfl

/-- The coins that move nothing can be left out. -/
theorem ofCoins_movers
    (pool : Asset)
    (price : PriceAt)
    (coins : List Coin) :
    ofCoins pool price (Coin.movers pool coins) =
      ofCoins pool price coins := by
  unfold Coin.movers
  induction coins with
  | nil =>
      rfl
  | cons coin rest inductionHypothesis =>
      cases shape : coin.moves pool with
      | false =>
          rw [List.filter_cons_of_neg (by simp [shape]), ofCoins_cons,
            ofCoin_of_idle shape, zero_add, inductionHypothesis]
      | true =>
          rw [List.filter_cons_of_pos (by simp [shape]), ofCoins_cons,
            ofCoins_cons, inductionHypothesis]

/-- Coins that move nothing have no flow. -/
theorem ofCoins_of_idle
    {pool : Asset}
    {coins : List Coin}
    (idle : Coin.movers pool coins = [])
    (price : PriceAt) :
    ofCoins pool price coins = 0 := by
  rw [← ofCoins_movers, idle, ofCoins_nil]

end ExactFlow

namespace PriceAt

/--
A price between a thousandth and a million in the base asset, and of at most
a million in dollars.
-/
@[mk_iff]
structure Moderate (price : PriceAt) : Prop where
  rune_ge : 1 / 1000 ≤ price.inRune.value
  rune_le : price.inRune.value ≤ 10 ^ 6
  usd_nonneg : 0 ≤ price.inUsd.value
  usd_le : price.inUsd.value ≤ 10 ^ 6

instance (price : PriceAt) : Decidable price.Moderate :=
  decidable_of_iff _ (moderate_iff price).symm

theorem Moderate.rune_pos
    {price : PriceAt}
    (moderate : price.Moderate) :
    0 < price.inRune.value :=
  lt_of_lt_of_le (by norm_num) moderate.rune_ge

/-- Dividing by a moderate price multiplies by at most a thousand. -/
theorem Moderate.abs_div_le
    {price : PriceAt}
    (moderate : price.Moderate)
    (amount : ℚ) :
    |amount / price.inRune.value| ≤ 10 ^ 3 * |amount| := by
  have positive := moderate.rune_pos
  rw [abs_div, abs_of_pos positive, div_le_iff₀ positive]
  nlinarith [abs_nonneg amount, moderate.rune_ge]

theorem Moderate.abs_mul_rune_le
    {price : PriceAt}
    (moderate : price.Moderate)
    (amount : ℚ) :
    |amount * price.inRune.value| ≤ 10 ^ 6 * |amount| := by
  rw [abs_mul, abs_of_pos moderate.rune_pos]
  nlinarith [abs_nonneg amount, moderate.rune_le]

theorem Moderate.abs_mul_usd_le
    {price : PriceAt}
    (moderate : price.Moderate)
    (amount : ℚ) :
    |amount * price.inUsd.value| ≤ 10 ^ 6 * |amount| := by
  rw [abs_mul, abs_of_nonneg moderate.usd_nonneg]
  nlinarith [abs_nonneg amount, moderate.usd_le]

/-- The values of an amount of the base asset are bounded by the amount. -/
theorem Moderate.abs_ofRune_le
    {price : PriceAt}
    (moderate : price.Moderate)
    (amount : ℚ)
    (unit : Denomination) :
    |ExactFlow.ofRune amount price (.value unit)| ≤ 10 ^ 9 * |amount| := by
  have nonneg := abs_nonneg amount
  have quotient := moderate.abs_div_le amount
  cases unit with
  | rune =>
      change |amount| ≤ 10 ^ 9 * |amount|
      linarith
  | asset =>
      change |amount / price.inRune.value| ≤ 10 ^ 9 * |amount|
      linarith
  | usd =>
      have product :=
        moderate.abs_mul_usd_le (amount / price.inRune.value)
      change
        |amount / price.inRune.value * price.inUsd.value| ≤
          10 ^ 9 * |amount|
      linarith

/-- The values of an amount of the pool's asset are bounded by the amount. -/
theorem Moderate.abs_ofAsset_le
    {price : PriceAt}
    (moderate : price.Moderate)
    (amount : ℚ)
    (unit : Denomination) :
    |ExactFlow.ofAsset amount price (.value unit)| ≤ 10 ^ 9 * |amount| := by
  have nonneg := abs_nonneg amount
  cases unit with
  | rune =>
      have product := moderate.abs_mul_rune_le amount
      change |amount * price.inRune.value| ≤ 10 ^ 9 * |amount|
      linarith
  | asset =>
      change |amount| ≤ 10 ^ 9 * |amount|
      linarith
  | usd =>
      have product := moderate.abs_mul_usd_le amount
      change |amount * price.inUsd.value| ≤ 10 ^ 9 * |amount|
      linarith

end PriceAt

/--
Bounds of an exact flow that some coins make up: their number is at most the
sum of their magnitudes, the stake, which bounds the amounts and, up to a
factor, the values.
-/
structure Envelope (exact : ExactFlow) (count : ℕ) (stake : ℚ) : Prop where
  count_le : (count : ℚ) ≤ stake
  rune_whole : Whole (exact .rune)
  asset_whole : Whole (exact .asset)
  rune_le : |exact .rune| ≤ stake
  asset_le : |exact .asset| ≤ stake
  value_le : ∀ unit, |exact (.value unit)| ≤ 10 ^ 9 * stake

namespace Envelope

theorem zero : Envelope 0 0 0 where
  count_le := by simp
  rune_whole := Whole.zero
  asset_whole := Whole.zero
  rune_le := by simp
  asset_le := by simp
  value_le := by simp

theorem stake_nonneg
    {exact : ExactFlow}
    {count : ℕ}
    {stake : ℚ}
    (envelope : Envelope exact count stake) :
    0 ≤ stake :=
  count.cast_nonneg.trans envelope.count_le

/-- The bounds of a sum are the sums of the bounds. -/
theorem add
    {left right : ExactFlow}
    {leftCount rightCount : ℕ}
    {leftStake rightStake : ℚ}
    (leftEnvelope : Envelope left leftCount leftStake)
    (rightEnvelope : Envelope right rightCount rightStake) :
    Envelope (left + right) (leftCount + rightCount)
      (leftStake + rightStake) where
  count_le := by
    push_cast
    exact add_le_add leftEnvelope.count_le rightEnvelope.count_le
  rune_whole := leftEnvelope.rune_whole.add rightEnvelope.rune_whole
  asset_whole := leftEnvelope.asset_whole.add rightEnvelope.asset_whole
  rune_le :=
    (abs_add_le _ _).trans
      (add_le_add leftEnvelope.rune_le rightEnvelope.rune_le)
  asset_le :=
    (abs_add_le _ _).trans
      (add_le_add leftEnvelope.asset_le rightEnvelope.asset_le)
  value_le unit := by
    rw [mul_add]
    exact (abs_add_le _ _).trans
      (add_le_add (leftEnvelope.value_le unit) (rightEnvelope.value_le unit))

/-- The bounds of a difference are the sums of the bounds, too. -/
theorem sub
    {left right : ExactFlow}
    {leftCount rightCount : ℕ}
    {leftStake rightStake : ℚ}
    (leftEnvelope : Envelope left leftCount leftStake)
    (rightEnvelope : Envelope right rightCount rightStake) :
    Envelope (left - right) (leftCount + rightCount)
      (leftStake + rightStake) where
  count_le := by
    push_cast
    exact add_le_add leftEnvelope.count_le rightEnvelope.count_le
  rune_whole := leftEnvelope.rune_whole.sub rightEnvelope.rune_whole
  asset_whole := leftEnvelope.asset_whole.sub rightEnvelope.asset_whole
  rune_le :=
    (abs_sub _ _).trans
      (add_le_add leftEnvelope.rune_le rightEnvelope.rune_le)
  asset_le :=
    (abs_sub _ _).trans
      (add_le_add leftEnvelope.asset_le rightEnvelope.asset_le)
  value_le unit := by
    rw [mul_add]
    exact (abs_sub _ _).trans
      (add_le_add (leftEnvelope.value_le unit) (rightEnvelope.value_le unit))

/-- A whole amount of the base asset at a moderate price. -/
theorem ofRune
    {amount : ℚ}
    {price : PriceAt}
    (whole : Whole amount)
    (large : 1 ≤ |amount|)
    (moderate : price.Moderate) :
    Envelope (ExactFlow.ofRune amount price) 1 |amount| where
  count_le := by
    simpa using large
  rune_whole := whole
  asset_whole := Whole.zero
  rune_le := le_rfl
  asset_le := by
    simp [ExactFlow.ofRune]
  value_le := moderate.abs_ofRune_le amount

/-- A whole amount of the pool's asset at a moderate price. -/
theorem ofAsset
    {amount : ℚ}
    {price : PriceAt}
    (whole : Whole amount)
    (large : 1 ≤ |amount|)
    (moderate : price.Moderate) :
    Envelope (ExactFlow.ofAsset amount price) 1 |amount| where
  count_le := by
    simpa using large
  rune_whole := Whole.zero
  asset_whole := whole
  rune_le := by
    simp [ExactFlow.ofAsset]
  asset_le := le_rfl
  value_le := moderate.abs_ofAsset_le amount

/-- One coin that moves, of a whole amount and at a moderate price. -/
theorem ofCoin
    {pool : Asset}
    {price : PriceAt}
    {coin : Coin}
    (moving : coin.moves pool = true)
    (whole : Whole coin.amount.value)
    (moderate : price.Moderate) :
    Envelope (ExactFlow.ofCoin pool price coin) 1 |coin.amount.value| := by
  simp only [Coin.moves, Coin.inPosition, Bool.and_eq_true, Bool.or_eq_true,
    Bool.not_eq_true', decide_eq_true_eq] at moving
  obtain ⟨inside, notZero⟩ := moving
  have large : 1 ≤ |coin.amount.value| := by
    refine whole.one_le_abs fun zero => ?_
    simp [(coin.amount.isZero_iff_value).mpr zero] at notZero
  unfold ExactFlow.ofCoin
  split
  · exact ofRune whole large moderate
  · rename_i notRune
    rw [if_pos (inside.resolve_left notRune)]
    exact ofAsset whole large moderate

/-- Coins whose movers are of whole amounts, at a moderate price. -/
theorem ofCoins
    {pool : Asset}
    {price : PriceAt}
    {coins : List Coin}
    (whole : ∀ coin ∈ Coin.movers pool coins, Whole coin.amount.value)
    (moderate : price.Moderate) :
    Envelope (ExactFlow.ofCoins pool price coins)
      (Coin.movers pool coins).length
      (Coin.stake (Coin.movers pool coins)) := by
  have moving :
      ∀ coin ∈ Coin.movers pool coins, coin.moves pool = true :=
    fun coin member => Coin.moves_of_mem_movers member
  rw [← ExactFlow.ofCoins_movers]
  generalize Coin.movers pool coins = moved at whole moving
  induction moved with
  | nil =>
      exact zero
  | cons coin rest inductionHypothesis =>
      rw [List.forall_mem_cons] at moving whole
      have first := ofCoin moving.1 whole.1 moderate
      have others := inductionHypothesis whole.2 moving.2
      rw [ExactFlow.ofCoins_cons, List.length_cons, Nat.add_comm,
        Coin.stake_cons]
      exact first.add others

theorem mono
    {exact : ExactFlow}
    {count more : ℕ}
    {stake wider : ℚ}
    (envelope : Envelope exact count stake)
    (more_le : (more : ℚ) ≤ wider)
    (stake_le : stake ≤ wider) :
    Envelope exact more wider where
  count_le := more_le
  rune_whole := envelope.rune_whole
  asset_whole := envelope.asset_whole
  rune_le := envelope.rune_le.trans stake_le
  asset_le := envelope.asset_le.trans stake_le
  value_le unit :=
    (envelope.value_le unit).trans (by gcongr)

end Envelope

namespace Market

/--
The prices in the second of an action; one that is missing counts as zero.
-/
def quote (market : Market) (action : Action) : PriceAt where
  inRune := (market.prices.inRune.get? action.date.second).getD .zero
  inUsd := (market.prices.inUsd.get? action.date.second).getD .zero

theorem quote_of_priceAt
    {market : Market}
    {action : Action}
    {price : PriceAt}
    (found : market.priceAt action = .ok price) :
    market.quote action = price := by
  obtain ⟨inRune, inUsd⟩ := priceAt_eq_ok_iff.mp found
  simp [quote, inRune, inUsd]

end Market

namespace FlowSide

/-- The exact net flow in the direction of a side. -/
def exactNet (side : FlowSide) (inflow outflow : ExactFlow) : ExactFlow :=
  match side with
  | .added =>
      inflow - outflow
  | .withdrawn =>
      outflow - inflow

end FlowSide

namespace Action

/-- The coins of the position that an action moves, if it counts. -/
def movedCoins (pool : Asset) (action : Action) : List Coin :=
  if action.counts pool then Coin.movers pool action.coins else []

/-- The exact net flow of an action in the direction of a side. -/
def exactNet
    (action : Action)
    (market : Market)
    (side : FlowSide) :
    ExactFlow :=
  side.exactNet
    (ExactFlow.ofCoins market.pool (market.quote action)
      (Transfer.allCoins (action.inputs.getD [])))
    (ExactFlow.ofCoins market.pool (market.quote action)
      (Transfer.allCoins (action.outputs.getD [])))

/-- What an action adds to one side in exact arithmetic. -/
def exactFlow
    (market : Market)
    (side : FlowSide)
    (action : Action) :
    ExactFlow :=
  if action.side? market.pool = some side then
    action.exactNet market side
  else
    0

end Action

namespace FlowTotals

/-- The totals of one side in exact arithmetic. -/
def exact
    (market : Market)
    (actions : List Action)
    (side : FlowSide) :
    ExactFlow :=
  (actions.map (Action.exactFlow market side)).sum

/-- All coins of the position that actions move. -/
def movedCoins (pool : Asset) (actions : List Action) : List Coin :=
  actions.flatMap (Action.movedCoins pool)

@[simp] theorem exact_cons
    (market : Market)
    (action : Action)
    (rest : List Action)
    (side : FlowSide) :
    exact market (action :: rest) side =
      action.exactFlow market side + exact market rest side :=
  List.sum_cons

@[simp] theorem movedCoins_cons
    (pool : Asset)
    (action : Action)
    (rest : List Action) :
    movedCoins pool (action :: rest) =
      action.movedCoins pool ++ movedCoins pool rest :=
  List.flatMap_cons

end FlowTotals

end LiquidityReturns
