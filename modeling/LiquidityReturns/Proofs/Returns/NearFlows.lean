import Mathlib
import LiquidityReturns.Proofs.Returns.ExactFlows

namespace LiquidityReturns

/-!
# Flows near exact flows

A flow is near an exact flow if it has the same amounts, and values up to an
error.  Every rounding of a value below `11 * 10 ^ 26` adds at most `11 / 100`
to this error, and amounts that are whole are not rounded at all.  At moderate
prices and up to a stake of `10 ^ 18`, a coin therefore costs at most a third.
-/

namespace FlowPart

/-- The error that a part of a flow may have: none in an amount. -/
def allowed (error : ℚ) : FlowPart → ℚ
  | .rune =>
      0
  | .asset =>
      0
  | .value _ =>
      error

theorem allowed_add (left right : ℚ) (part : FlowPart) :
    allowed left part + allowed right part = allowed (left + right) part := by
  cases part <;> simp [allowed]

theorem allowed_le
    {error larger : ℚ}
    (error_le : error ≤ larger)
    (part : FlowPart) :
    allowed error part ≤ allowed larger part := by
  cases part <;> simp [allowed, error_le]

end FlowPart

namespace ExactFlow

/-- The same amounts, and values up to an error. -/
def Near (flow exact : ExactFlow) (error : ℚ) : Prop :=
  ∀ part, |flow part - exact part| ≤ FlowPart.allowed error part

theorem Near.add
    {left right leftExact rightExact : ExactFlow}
    {leftError rightError : ℚ}
    (leftNear : left.Near leftExact leftError)
    (rightNear : right.Near rightExact rightError) :
    (left + right).Near (leftExact + rightExact)
      (leftError + rightError) := by
  intro part
  rw [← FlowPart.allowed_add]
  calc
    |(left + right) part - (leftExact + rightExact) part| =
        |(left part - leftExact part) + (right part - rightExact part)| := by
      congr 1
      simp only [Pi.add_apply]
      ring
    _ ≤ |left part - leftExact part| + |right part - rightExact part| :=
      abs_add_le _ _
    _ ≤ _ :=
      add_le_add (leftNear part) (rightNear part)

theorem Near.sub
    {left right leftExact rightExact : ExactFlow}
    {leftError rightError : ℚ}
    (leftNear : left.Near leftExact leftError)
    (rightNear : right.Near rightExact rightError) :
    (left - right).Near (leftExact - rightExact)
      (leftError + rightError) := by
  intro part
  rw [← FlowPart.allowed_add]
  calc
    |(left - right) part - (leftExact - rightExact) part| =
        |(left part - leftExact part) - (right part - rightExact part)| := by
      congr 1
      simp only [Pi.sub_apply]
      ring
    _ ≤ |left part - leftExact part| + |right part - rightExact part| :=
      abs_sub _ _
    _ ≤ _ :=
      add_le_add (leftNear part) (rightNear part)

theorem Near.mono
    {flow exact : ExactFlow}
    {error larger : ℚ}
    (near : flow.Near exact error)
    (error_le : error ≤ larger) :
    flow.Near exact larger :=
  fun part => (near part).trans (FlowPart.allowed_le error_le part)

/-- Amounts that may have no error are the same. -/
theorem Near.rune_eq
    {flow exact : ExactFlow}
    {error : ℚ}
    (near : flow.Near exact error) :
    flow .rune = exact .rune := by
  simpa [FlowPart.allowed, sub_eq_zero] using near .rune

theorem Near.asset_eq
    {flow exact : ExactFlow}
    {error : ℚ}
    (near : flow.Near exact error) :
    flow .asset = exact .asset := by
  simpa [FlowPart.allowed, sub_eq_zero] using near .asset

end ExactFlow

theorem Decimal.le_maxCoefficient :
    (10 : ℚ) ^ 28 ≤ (Decimal.maxCoefficient : ℚ) := by
  norm_num [Decimal.maxCoefficient]

namespace Flow

/-- The five numbers of a flow as rational numbers. -/
def values (flow : Flow) : ExactFlow :=
  fun part => (flow.part part).value

@[simp] theorem values_zero : zero.values = 0 := by
  funext part
  simp [values]

/-- A whole number that fits a coefficient is not rounded. -/
theorem exists_nearest?_whole
    {number : ℚ}
    (whole : Whole number)
    (bounded : |number| ≤ (Decimal.maxCoefficient : ℚ)) :
    ∃ kept, Decimal.nearest? number = some kept ∧ kept.value = number := by
  obtain ⟨integer, rfl⟩ := whole
  have fits : integer.natAbs ≤ Decimal.maxCoefficient := by
    rw [← Int.cast_abs, Int.abs_eq_natAbs] at bounded
    exact_mod_cast bounded
  exact Decimal.nearest?_intCast fits

/--
A flow within its bounds can be rounded, and is as near as before but for one
rounding.
-/
theorem exists_rounded
    {raw exact : ExactFlow}
    {count : ℕ}
    {stake error : ℚ}
    (near : raw.Near exact error)
    (envelope : Envelope exact count stake)
    (stake_le : stake ≤ 10 ^ 18)
    (error_le : error ≤ 10 ^ 18) :
    ∃ flow : Flow,
      (∀ part, Decimal.nearest? (raw part) = some (flow.part part)) ∧
        flow.values.Near exact (error + 11 / 100) := by
  have largest := Decimal.le_maxCoefficient
  have amount :
      ∀ {number : ℚ},
        Whole number →
          |number| ≤ stake →
            ∃ kept,
              Decimal.nearest? number = some kept ∧
                kept.value = number :=
    fun whole bounded =>
      exists_nearest?_whole whole (by linarith)
  have rounded :
      ∀ part,
        ∃ number,
          Decimal.nearest? (raw part) = some number ∧
            |number.value - exact part| ≤
              FlowPart.allowed (error + 11 / 100) part := by
    rintro (_ | _ | unit)
    · obtain ⟨kept, found, value⟩ :=
        amount envelope.rune_whole envelope.rune_le
      exact ⟨kept, near.rune_eq ▸ found,
        by simp [value, FlowPart.allowed]⟩
    · obtain ⟨kept, found, value⟩ :=
        amount envelope.asset_whole envelope.asset_le
      exact ⟨kept, near.asset_eq ▸ found,
        by simp [value, FlowPart.allowed]⟩
    · have raw_near := near (.value unit)
      have bounded : |raw (.value unit)| ≤ 11 * 10 ^ 26 := by
        have exact_le := envelope.value_le unit
        have triangle :=
          abs_sub_abs_le_abs_sub (raw (.value unit)) (exact (.value unit))
        simp only [FlowPart.allowed] at raw_near
        linarith
      obtain ⟨number, found, number_near⟩ :=
        Decimal.exists_nearest?_near raw_near bounded (by norm_num)
          (by linarith)
      refine ⟨number, found, number_near.trans ?_⟩
      norm_num [FlowPart.allowed]
  choose numbers found numbers_near using rounded
  refine ⟨ofParts numbers, ?_, ?_⟩
  · intro part
    rw [part_ofParts]
    exact found part
  · intro part
    unfold values
    rw [part_ofParts]
    exact numbers_near part

/-- A sum of near flows exists and is near the exact sum. -/
theorem exists_add
    {left right : Flow}
    {leftExact rightExact : ExactFlow}
    {leftError rightError : ℚ}
    (leftNear : left.values.Near leftExact leftError)
    (rightNear : right.values.Near rightExact rightError)
    {count : ℕ}
    {stake : ℚ}
    (envelope : Envelope (leftExact + rightExact) count stake)
    (stake_le : stake ≤ 10 ^ 18)
    (error_le : leftError + rightError ≤ 10 ^ 18) :
    ∃ sum,
      left.add right = .ok sum ∧
        sum.values.Near (leftExact + rightExact)
          (leftError + rightError + 11 / 100) := by
  obtain ⟨sum, found, near⟩ :=
    exists_rounded (leftNear.add rightNear) envelope stake_le error_le
  refine ⟨sum, ?_, near⟩
  rw [add_eq_ok_iff]
  exact fun part => Checked.add_eq_ok_iff.mpr (found part)

/-- A difference of near flows exists and is near the exact difference. -/
theorem exists_sub
    {left right : Flow}
    {leftExact rightExact : ExactFlow}
    {leftError rightError : ℚ}
    (leftNear : left.values.Near leftExact leftError)
    (rightNear : right.values.Near rightExact rightError)
    {count : ℕ}
    {stake : ℚ}
    (envelope : Envelope (leftExact - rightExact) count stake)
    (stake_le : stake ≤ 10 ^ 18)
    (error_le : leftError + rightError ≤ 10 ^ 18) :
    ∃ difference,
      left.sub right = .ok difference ∧
        difference.values.Near (leftExact - rightExact)
          (leftError + rightError + 11 / 100) := by
  obtain ⟨difference, found, near⟩ :=
    exists_rounded (leftNear.sub rightNear) envelope stake_le error_le
  refine ⟨difference, ?_, near⟩
  rw [sub_eq_ok_iff]
  exact fun part => Checked.sub_eq_ok_iff.mpr (found part)

/--
An amount of the base asset has a value at a moderate price, near the exact
one.
-/
theorem exists_ofRune
    {amount : Decimal}
    {price : PriceAt}
    (moderate : price.Moderate)
    (bounded : |amount.value| ≤ 10 ^ 18) :
    ∃ worth,
      Valuation.ofRune amount price = .ok worth ∧
        (Flow.mk amount .zero worth).values.Near
          (ExactFlow.ofRune amount.value price) (21 / 100) := by
  have divisor : price.inRune.isZero = false :=
    price.inRune.isZero_eq_false_iff.mpr moderate.rune_pos.ne'
  have quotient_le : |amount.value / price.inRune.value| ≤ 10 ^ 21 := by
    have scaled := moderate.abs_div_le amount.value
    linarith
  obtain ⟨inAsset, divided, inAsset_close⟩ :=
    Decimal.exists_nearest?_close quotient_le (by norm_num)
      (le_trans (by norm_num) Decimal.le_maxCoefficient)
  -- The error of the quotient is multiplied by at most a million.
  have product_near :
      |inAsset.value * price.inUsd.value -
          amount.value / price.inRune.value * price.inUsd.value| ≤
        1 / 10 := by
    rw [← sub_mul]
    have scaled :=
      moderate.abs_mul_usd_le
        (inAsset.value - amount.value / price.inRune.value)
    linarith
  have product_le :
      |inAsset.value * price.inUsd.value| ≤ 11 * 10 ^ 26 := by
    have scaled := moderate.abs_mul_usd_le inAsset.value
    have triangle :=
      abs_sub_abs_le_abs_sub inAsset.value
        (amount.value / price.inRune.value)
    linarith
  obtain ⟨inUsd, multiplied, inUsd_near⟩ :=
    Decimal.exists_nearest?_near product_near product_le (by norm_num)
      (le_trans (by norm_num) Decimal.le_maxCoefficient)
  refine ⟨⟨amount, inAsset, inUsd⟩, ?_, ?_⟩
  · rw [Valuation.ofRune_eq_ok_iff]
    exact ⟨rfl, (Checked.div_eq_ok_iff divisor).mpr divided,
      Checked.mul_eq_ok_iff.mpr multiplied⟩
  · rintro (_ | _ | _ | _ | _)
    · simp [values, part, ExactFlow.ofRune, FlowPart.allowed]
    · simp [values, part, ExactFlow.ofRune, FlowPart.allowed]
    · norm_num [values, part, Valuation.inUnit, ExactFlow.ofRune,
        FlowPart.allowed]
    · change
        |inAsset.value - amount.value / price.inRune.value| ≤ 21 / 100
      linarith
    · change
        |inUsd.value -
            amount.value / price.inRune.value * price.inUsd.value| ≤
          21 / 100
      linarith

/--
An amount of the pool's asset has a value at a moderate price, near the exact
one.
-/
theorem exists_ofAsset
    {amount : Decimal}
    {price : PriceAt}
    (moderate : price.Moderate)
    (bounded : |amount.value| ≤ 10 ^ 18) :
    ∃ worth,
      Valuation.ofAsset amount price = .ok worth ∧
        (Flow.mk .zero amount worth).values.Near
          (ExactFlow.ofAsset amount.value price) (21 / 100) := by
  have rune_le : |amount.value * price.inRune.value| ≤ 10 ^ 24 := by
    have scaled := moderate.abs_mul_rune_le amount.value
    linarith
  have usd_le : |amount.value * price.inUsd.value| ≤ 10 ^ 24 := by
    have scaled := moderate.abs_mul_usd_le amount.value
    linarith
  obtain ⟨inRune, inRuneFound, inRune_close⟩ :=
    Decimal.exists_nearest?_close rune_le (by norm_num)
      (le_trans (by norm_num) Decimal.le_maxCoefficient)
  obtain ⟨inUsd, inUsdFound, inUsd_close⟩ :=
    Decimal.exists_nearest?_close usd_le (by norm_num)
      (le_trans (by norm_num) Decimal.le_maxCoefficient)
  refine ⟨⟨inRune, amount, inUsd⟩, ?_, ?_⟩
  · rw [Valuation.ofAsset_eq_ok_iff]
    exact ⟨rfl, Checked.mul_eq_ok_iff.mpr inRuneFound,
      Checked.mul_eq_ok_iff.mpr inUsdFound⟩
  · rintro (_ | _ | _ | _ | _)
    · simp [values, part, ExactFlow.ofAsset, FlowPart.allowed]
    · simp [values, part, ExactFlow.ofAsset, FlowPart.allowed]
    · change
        |inRune.value - amount.value * price.inRune.value| ≤ 21 / 100
      linarith
    · norm_num [values, part, Valuation.inUnit, ExactFlow.ofAsset,
        FlowPart.allowed]
    · change
        |inUsd.value - amount.value * price.inUsd.value| ≤ 21 / 100
      linarith

/--
A coin that moves has a flow of its own, near the exact one, and adding the
coin adds this flow.
-/
theorem exists_coinFlow
    {pool : Asset}
    {price : PriceAt}
    {coin : Coin}
    (moving : coin.moves pool = true)
    (moderate : price.Moderate)
    (bounded : |coin.amount.value| ≤ 10 ^ 18) :
    ∃ single : Flow,
      single.values.Near (ExactFlow.ofCoin pool price coin) (21 / 100) ∧
        ∀ flow : Flow,
          addCoin pool (some price) flow coin = flow.add single := by
  simp only [Coin.moves, Coin.inPosition, Bool.and_eq_true, Bool.or_eq_true,
    decide_eq_true_eq] at moving
  unfold ExactFlow.ofCoin addCoin addAmount addValue Valuation.ofCoin
  by_cases rune : coin.asset.isRune = true
  · obtain ⟨worth, valued, near⟩ := exists_ofRune moderate bounded
    simp only [if_pos rune]
    refine ⟨⟨coin.amount, .zero, worth⟩, near, ?_⟩
    intro flow
    simp [valued, add]
  · have same : coin.asset = pool :=
      moving.1.resolve_left rune
    obtain ⟨worth, valued, near⟩ := exists_ofAsset moderate bounded
    simp only [if_neg rune, if_pos same]
    refine ⟨⟨.zero, coin.amount, worth⟩, near, ?_⟩
    intro flow
    simp [valued, add]

/--
Adding coins that move keeps a flow near the exact one; each coin adds at most
a third to the error.
-/
theorem exists_run_of_moving
    {pool : Asset}
    {price : PriceAt}
    (moderate : price.Moderate)
    {coins : List Coin}
    (moving : ∀ coin ∈ coins, coin.moves pool = true)
    (whole : ∀ coin ∈ coins, Whole coin.amount.value)
    {start : Flow}
    {exact : ExactFlow}
    {count : ℕ}
    {stake : ℚ}
    (near : start.values.Near exact (count / 3))
    (envelope : Envelope exact count stake)
    (stake_le : stake + Coin.stake coins ≤ 10 ^ 18) :
    ∃ final,
      coins.foldlM (addCoin pool (some price)) start = .ok final ∧
        final.values.Near (exact + ExactFlow.ofCoins pool price coins)
          ((count + coins.length : ℕ) / 3) := by
  induction coins generalizing start exact count stake with
  | nil =>
      exact ⟨start, rfl, by simpa using near⟩
  | cons coin rest inductionHypothesis =>
      rw [List.forall_mem_cons] at moving whole
      rw [Coin.stake_cons] at stake_le
      have rest_nonneg := Coin.stake_nonneg rest
      have count_le := envelope.count_le
      have single_envelope := Envelope.ofCoin moving.1 whole.1 moderate
      have grown := envelope.add single_envelope
      obtain ⟨single, single_near, addsSingle⟩ :=
        exists_coinFlow moving.1 moderate (by linarith [envelope.stake_nonneg])
      obtain ⟨middle, added, middle_near⟩ :=
        exists_add near single_near grown (by linarith)
          (by linarith [single_envelope.stake_nonneg])
      have middle_near_third :
          middle.values.Near (exact + ExactFlow.ofCoin pool price coin)
            ((count + 1 : ℕ) / 3) := by
        refine middle_near.mono ?_
        push_cast
        linarith
      obtain ⟨final, run, final_near⟩ :=
        inductionHypothesis moving.2 whole.2 middle_near_third grown
          (by linarith)
      refine ⟨final, ?_, ?_⟩
      · rw [List.foldlM_cons, addsSingle, added, Outcome.ok_bind, run]
      · rw [ExactFlow.ofCoins_cons, ← add_assoc, List.length_cons,
          Nat.add_comm rest.length, ← Nat.add_assoc]
        exact final_near

/-- Coins have a flow near the exact one. -/
theorem exists_ofCoins
    {pool : Asset}
    {price : PriceAt}
    (moderate : price.Moderate)
    {coins : List Coin}
    (whole : ∀ coin ∈ Coin.movers pool coins, Whole coin.amount.value)
    (stake_le : Coin.stake (Coin.movers pool coins) ≤ 10 ^ 18) :
    ∃ flow,
      ofCoins pool (some price) coins = .ok flow ∧
        flow.values.Near (ExactFlow.ofCoins pool price coins)
          ((Coin.movers pool coins).length / 3) := by
  have start_near : zero.values.Near 0 ((0 : ℕ) / 3) := by
    intro part
    cases part <;> simp [FlowPart.allowed]
  obtain ⟨flow, run, near⟩ :=
    exists_run_of_moving moderate
      (fun coin member => Coin.moves_of_mem_movers member) whole start_near
      Envelope.zero (by simpa using stake_le)
  refine ⟨flow, ?_, ?_⟩
  · rw [← ofCoins_movers]
    exact run
  · rw [← ExactFlow.ofCoins_movers]
    simpa using near

end Flow

end LiquidityReturns
