import Mathlib
import LiquidityReturns.Proofs.Returns.FlowParts

namespace LiquidityReturns

/-!
# Which coins change a flow, and which stop it

Only a coin of the position whose amount is not zero moves anything; any other
coin leaves a flow as it is.  A coin of the base asset cannot be valued at a
price of zero unless its amount is zero, and nothing else divides by zero.
-/

namespace Coin

/-- Whether a coin changes the flows of a position in a pool. -/
def moves (coin : Coin) (pool : Asset) : Bool :=
  coin.inPosition pool && !coin.amount.isZero

/-- The coins that change the flows of a position in a pool. -/
def movers (pool : Asset) (coins : List Coin) : List Coin :=
  coins.filter fun coin => coin.moves pool

theorem moves_of_mem_movers
    {pool : Asset}
    {coins : List Coin}
    {coin : Coin}
    (member : coin ∈ movers pool coins) :
    coin.moves pool = true :=
  (List.mem_filter.mp member).2

theorem movers_append (pool : Asset) (left right : List Coin) :
    movers pool (left ++ right) = movers pool left ++ movers pool right :=
  List.filter_append ..

/-- A coin of the base asset, not zero, at a price of zero. -/
structure Unpriceable (coin : Coin) (price : PriceAt) : Prop where
  isRune : coin.asset.isRune = true
  notZero : coin.amount.isZero = false
  priceZero : price.inRune.isZero = true

/-- A coin that moves nothing is foreign, or zero. -/
theorem amount_eq_zero_of_not_moves
    {coin : Coin}
    {pool : Asset}
    (idle : coin.moves pool = false)
    (inPosition : coin.inPosition pool = true) :
    coin.amount = .zero := by
  rw [← Decimal.isZero_iff_eq_zero]
  simpa [moves, inPosition] using idle

theorem inPosition_of_isRune
    {coin : Coin}
    (rune : coin.asset.isRune = true)
    (pool : Asset) :
    coin.inPosition pool = true := by
  simp [inPosition, rune]

theorem inPosition_of_asset_eq
    {coin : Coin}
    {pool : Asset}
    (same : coin.asset = pool) :
    coin.inPosition pool = true := by
  simp [inPosition, same]

end Coin

namespace Valuation

section Worth

variable {amount : Decimal} {price : PriceAt} {worth : Valuation}

/--
The worth of the base asset is a quotient and its product with the price in
dollars.
-/
theorem ofRune_eq_ok_iff :
    ofRune amount price = .ok worth ↔
      worth.inRune = amount ∧
        Checked.div amount price.inRune = .ok worth.inAsset ∧
        Checked.mul worth.inAsset price.inUsd = .ok worth.inUsd := by
  unfold ofRune
  simp only [Outcome.bind_eq_ok_iff, Outcome.pure_eq_ok, Except.ok.injEq]
  constructor
  · rintro ⟨inAsset, divided, inUsd, multiplied, rfl⟩
    exact ⟨rfl, divided, multiplied⟩
  · rintro ⟨rfl, divided, multiplied⟩
    exact ⟨_, divided, _, multiplied, rfl⟩

/-- The worth of the pool's asset is a product with each price. -/
theorem ofAsset_eq_ok_iff :
    ofAsset amount price = .ok worth ↔
      worth.inAsset = amount ∧
        Checked.mul amount price.inRune = .ok worth.inRune ∧
        Checked.mul amount price.inUsd = .ok worth.inUsd := by
  unfold ofAsset
  simp only [Outcome.bind_eq_ok_iff, Outcome.pure_eq_ok, Except.ok.injEq]
  constructor
  · rintro ⟨inRune, runeFound, inUsd, usdFound, rfl⟩
    exact ⟨rfl, runeFound, usdFound⟩
  · rintro ⟨rfl, runeFound, usdFound⟩
    exact ⟨_, runeFound, _, usdFound, rfl⟩

end Worth

/-- A coin that moves nothing is worth nothing. -/
theorem ofCoin_of_idle
    {coin : Coin}
    {pool : Asset}
    (idle : coin.moves pool = false)
    (price : PriceAt) :
    ofCoin coin pool price = .ok zero := by
  cases inside : coin.inPosition pool with
  | false =>
      exact ofCoin_of_not_inPosition inside price
  | true =>
      have amount := Coin.amount_eq_zero_of_not_moves idle inside
      unfold ofCoin
      split
      · simp [ofRune, amount, zero, Outcome.pure_eq_ok]
      · split
        · simp [ofAsset, amount, zero, Outcome.pure_eq_ok]
        · rfl

/-- An amount of the base asset is divided by the price alone. -/
theorem ofRune_eq_divisionByZero_iff
    {amount : Decimal}
    {price : PriceAt} :
    ofRune amount price = .error .divisionByZero ↔
      amount.isZero = false ∧ price.inRune.isZero = true := by
  rw [← Checked.div_eq_divisionByZero_iff]
  unfold ofRune
  simp [Outcome.bind_eq_error_iff, Outcome.pure_eq_ok,
    Checked.mul_ne_divisionByZero]

/-- An amount of the pool's asset is valued without a division. -/
theorem ofAsset_ne_divisionByZero (amount : Decimal) (price : PriceAt) :
    ofAsset amount price ≠ .error .divisionByZero := by
  unfold ofAsset
  simp [Outcome.bind_eq_error_iff, Outcome.pure_eq_ok,
    Checked.mul_ne_divisionByZero]

/-- Valuing a coin divides by zero exactly when the coin cannot be priced. -/
theorem ofCoin_eq_divisionByZero_iff
    {coin : Coin}
    {pool : Asset}
    {price : PriceAt} :
    ofCoin coin pool price = .error .divisionByZero ↔
      coin.Unpriceable price := by
  unfold ofCoin
  split
  · rename_i rune
    rw [ofRune_eq_divisionByZero_iff]
    exact
      ⟨fun ⟨notZero, priceZero⟩ => ⟨rune, notZero, priceZero⟩,
        fun unpriceable => ⟨unpriceable.notZero, unpriceable.priceZero⟩⟩
  · rename_i other
    have priceable : ¬ coin.Unpriceable price :=
      fun unpriceable => other unpriceable.isRune
    split <;> simp [priceable, ofAsset_ne_divisionByZero]

end Valuation

namespace Flow

/-- Adding an amount fails only by overflow. -/
theorem eq_overflow_of_addAmount
    {flow : Flow}
    {pool : Asset}
    {coin : Coin}
    {failure : ArithmeticError}
    (failed : flow.addAmount pool coin = .error failure) :
    failure = .overflow := by
  unfold addAmount at failed
  split at failed
  · simp only [Outcome.bind_eq_error_iff, Outcome.pure_eq_ok] at failed
    rcases failed with stopped | ⟨_, _, stop⟩
    · exact Checked.eq_overflow_of_orOverflow stopped
    · cases stop
  · split at failed
    · simp only [Outcome.bind_eq_error_iff, Outcome.pure_eq_ok] at failed
      rcases failed with stopped | ⟨_, _, stop⟩
      · exact Checked.eq_overflow_of_orOverflow stopped
      · cases stop
    · cases failed

/-- Adding a coin fails by overflow, or because the coin cannot be priced. -/
theorem failure_of_addCoin
    {pool : Asset}
    {price : Option PriceAt}
    {flow : Flow}
    {coin : Coin}
    {failure : ArithmeticError}
    (failed : addCoin pool price flow coin = .error failure) :
    failure = .overflow ∨
      ∃ known,
        price = some known ∧ coin.Unpriceable known ∧
          failure = .divisionByZero := by
  unfold addCoin at failed
  rw [Outcome.bind_eq_error_iff] at failed
  rcases failed with amount | ⟨counted, _, valued⟩
  · exact .inl (eq_overflow_of_addAmount amount)
  · cases price with
    | none =>
        cases valued
    | some known =>
        unfold addValue at valued
        simp only [Outcome.bind_eq_error_iff, Outcome.pure_eq_ok] at valued
        rcases valued with worth | ⟨worth, _, added | ⟨_, _, stop⟩⟩
        · cases failure with
          | overflow =>
              exact .inl rfl
          | divisionByZero =>
              have unpriceable :=
                Valuation.ofCoin_eq_divisionByZero_iff.mp worth
              exact .inr ⟨known, rfl, unpriceable, rfl⟩
        · obtain ⟨unit, stopped⟩ :=
            Valuation.exists_unit_of_combine_error Checked.add added
          exact .inl (Checked.eq_overflow_of_orOverflow stopped)
        · cases stop

/-- A coin that was added at a price could be priced. -/
theorem priceable_of_addCoin
    {pool : Asset}
    {price : PriceAt}
    {flow after : Flow}
    {coin : Coin}
    (added : addCoin pool (some price) flow coin = .ok after) :
    ¬ coin.Unpriceable price := by
  intro unpriceable
  unfold addCoin addValue at added
  simp only [Outcome.bind_eq_ok_iff] at added
  obtain ⟨counted, _, worth, valued, _⟩ := added
  rw [Valuation.ofCoin_eq_divisionByZero_iff.mpr unpriceable] at valued
  cases valued

/-- A coin that moves nothing adds nothing. -/
theorem addCoin_of_idle
    {pool : Asset}
    {coin : Coin}
    (idle : coin.moves pool = false)
    (price : Option PriceAt)
    (flow : Flow) :
    addCoin pool price flow coin = .ok flow := by
  have amount : flow.addAmount pool coin = .ok flow := by
    unfold addAmount
    split
    · rename_i rune
      have zero :=
        Coin.amount_eq_zero_of_not_moves idle
          (Coin.inPosition_of_isRune rune pool)
      simp [zero, Outcome.pure_eq_ok]
    · split
      · rename_i same
        have zero :=
          Coin.amount_eq_zero_of_not_moves idle
            (Coin.inPosition_of_asset_eq same)
        simp [zero, Outcome.pure_eq_ok]
      · rfl
  have value : flow.addValue pool price coin = .ok flow := by
    cases price with
    | none =>
        rfl
    | some known =>
        simp [addValue, Valuation.ofCoin_of_idle idle, Outcome.pure_eq_ok]
  unfold addCoin
  rw [amount, Outcome.ok_bind, value]

/-- The coins that move nothing can be left out. -/
theorem ofCoins_movers
    (pool : Asset)
    (price : Option PriceAt)
    (coins : List Coin) :
    ofCoins pool price (Coin.movers pool coins) =
      ofCoins pool price coins := by
  refine Outcome.foldlM_filter ?_ coins zero
  intro coin idle flow
  exact addCoin_of_idle idle price flow

/-- Coins that move nothing have no flow. -/
theorem ofCoins_of_idle
    {pool : Asset}
    {coins : List Coin}
    (idle : Coin.movers pool coins = [])
    (price : Option PriceAt) :
    ofCoins pool price coins = .ok zero := by
  rw [← ofCoins_movers, idle]
  rfl

/-- Coins fail by overflow, or because one of them cannot be priced. -/
theorem failure_of_ofCoins
    {pool : Asset}
    {price : Option PriceAt}
    {coins : List Coin}
    {failure : ArithmeticError}
    (failed : ofCoins pool price coins = .error failure) :
    failure = .overflow ∨
      ∃ known,
        price = some known ∧
          (∃ coin ∈ coins, coin.Unpriceable known) ∧
            failure = .divisionByZero := by
  obtain ⟨coin, member, before, stopped⟩ :=
    Outcome.exists_step_of_foldlM_error failed
  rcases failure_of_addCoin stopped with
    overflow | ⟨known, priced, unpriceable, divided⟩
  · exact .inl overflow
  · exact .inr ⟨known, priced, ⟨coin, member, unpriceable⟩, divided⟩

/-- Every coin of a flow at a price could be priced. -/
theorem priceable_of_ofCoins
    {pool : Asset}
    {price : PriceAt}
    {coins : List Coin}
    {flow : Flow}
    (summed : ofCoins pool (some price) coins = .ok flow)
    {coin : Coin}
    (member : coin ∈ coins) :
    ¬ coin.Unpriceable price := by
  obtain ⟨before, after, added⟩ :=
    Outcome.exists_step_of_foldlM_ok summed member
  exact priceable_of_addCoin added

end Flow

end LiquidityReturns
