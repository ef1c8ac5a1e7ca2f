import Mathlib
import LiquidityReturns.Proofs.Binary64.Rounding

namespace LiquidityReturns.Binary64

/-!
# Short decimal numbers survive binary64

The unit of the last place of a magnitude is smaller than any grid on which
the magnitude has at most fifteen digits.  Of the points of such a grid at most
one rounds back, so the search for the shortest digits finds the decimal
number that the magnitude was rounded from.
-/

/-- The number that some digits denote. -/
def Digits.value (digits : Digits) : ℚ :=
  (digits.number : ℚ) * 10 ^ digits.exponent

variable {magnitude : Binary64}

/--
What rounds back to a magnitude is at most half a unit of the last place away.
-/
theorem abs_sub_le_of_roundsBack
    {candidate : ℚ}
    (inside : magnitude.roundsBack candidate = true) :
    |candidate - magnitude.value| ≤ 2 ^ magnitude.exponent / 2 := by
  obtain ⟨⟨below, above⟩, _⟩ := roundsBack_iff.mp inside
  have power : (0 : ℚ) < 2 ^ magnitude.exponent := by
    positivity
  have gapBelow : magnitude.halfGapBelow ≤ 2 ^ magnitude.exponent / 2 := by
    unfold halfGapBelow
    split
    · rw [two_zpow_sub_two]
      linarith
    · exact (two_zpow_sub_one _).le
  have gapAbove : magnitude.halfGapAbove = 2 ^ magnitude.exponent / 2 :=
    two_zpow_sub_one _
  rw [abs_le]
  constructor <;> linarith

namespace Normal

theorem le_value (normal : magnitude.Normal) :
    2 ^ 52 * (2 : ℚ) ^ magnitude.exponent ≤ magnitude.value := by
  unfold value
  gcongr
  exact_mod_cast normal.le_significand

theorem value_pos (normal : magnitude.Normal) : 0 < magnitude.value :=
  lt_of_lt_of_le (by positivity) normal.le_value

/-- The unit of the last place is finer than fifteen digits. -/
theorem unit_lt
    (normal : magnitude.Normal)
    {grid : ℤ}
    (fine : Int.log 10 magnitude.value - 14 ≤ grid) :
    (2 : ℚ) ^ magnitude.exponent < 10 ^ grid := by
  have bounded :=
    Int.lt_zpow_succ_log_self (b := 10) (by norm_num) magnitude.value
  push_cast at bounded
  have scaled : (10 : ℚ) ^ (Int.log 10 magnitude.value + 1) ≤
      10 ^ grid * 10 ^ 15 := by
    rw [← zpow_natCast, ← zpow_add₀ (by norm_num)]
    exact zpow_le_zpow_right₀ (by norm_num) (by push_cast; omega)
  have least := normal.le_value
  have power : (0 : ℚ) < 10 ^ grid := by
    positivity
  norm_num at least scaled
  linarith

/-- Of the points of a grid of fifteen digits at most one rounds back. -/
theorem eq_of_roundsBack
    (normal : magnitude.Normal)
    {grid : ℤ}
    (fine : Int.log 10 magnitude.value - 14 ≤ grid)
    {left right : ℕ}
    (leftInside : magnitude.roundsBack (left * 10 ^ grid) = true)
    (rightInside : magnitude.roundsBack (right * 10 ^ grid) = true) :
    left = right := by
  have power : (0 : ℚ) < 10 ^ grid := by
    positivity
  have leftNear := abs_sub_le_of_roundsBack leftInside
  have rightNear := abs_sub_le_of_roundsBack rightInside
  have apart :
      |((left : ℤ) - right : ℚ)| * 10 ^ grid < 1 * 10 ^ grid := by
    calc
      |((left : ℤ) - right : ℚ)| * 10 ^ grid =
          |left * 10 ^ grid - magnitude.value -
            (right * 10 ^ grid - magnitude.value)| := by
        rw [← abs_of_pos power, ← abs_mul, abs_of_pos power]
        push_cast
        ring_nf
      _ ≤ |left * 10 ^ grid - magnitude.value| +
          |right * 10 ^ grid - magnitude.value| := abs_sub _ _
      _ ≤ 2 ^ magnitude.exponent := by
        linarith
      _ < 1 * 10 ^ grid := by
        rw [one_mul]
        exact normal.unit_lt fine
  have small := lt_of_mul_lt_mul_right apart power.le
  have same : |(left : ℤ) - right| < 1 := by
    exact_mod_cast small
  rw [Int.abs_lt_one_iff] at same
  omega

end Normal

/-- A point that is found on a grid rounds back. -/
theorem roundsBack_of_nearestOnGrid?
    {grid : ℤ}
    {number : ℕ}
    (found : magnitude.nearestOnGrid? grid = some number) :
    magnitude.roundsBack (number * 10 ^ grid) = true := by
  unfold nearestOnGrid? at found
  dsimp only at found
  split_ifs at found <;> cases found <;> simp_all

/-- A point next to a magnitude is one of its two neighbours on the grid. -/
theorem eq_floor_or_eq_succ
    {quotient : ℚ}
    {number : ℕ}
    (near : |(number : ℚ) - quotient| < 1)
    (nonneg : 0 ≤ quotient) :
    number = quotient.floor.natAbs ∨
      number = quotient.floor.natAbs + 1 := by
  have below := Rat.floor_le quotient
  have above := Rat.lt_floor_add_one quotient
  have floorNonneg : 0 ≤ quotient.floor :=
    Rat.le_floor_iff.mpr (by exact_mod_cast nonneg)
  obtain ⟨least, greatest⟩ := abs_lt.mp near
  push_cast at above
  have lower : quotient.floor < (number : ℤ) + 1 := by
    have ordered : (quotient.floor : ℚ) < number + 1 := by
      linarith
    exact_mod_cast ordered
  have upper : (number : ℤ) < quotient.floor + 2 := by
    have ordered : (number : ℚ) < quotient.floor + 2 := by
      linarith
    exact_mod_cast ordered
  omega

/-- A point of a grid that rounds back lets the search stop at the grid. -/
theorem exists_nearestOnGrid?
    (nonneg : 0 ≤ magnitude.value)
    {grid : ℤ}
    {number : ℕ}
    (inside : magnitude.roundsBack (number * 10 ^ grid) = true)
    (near : |(number : ℚ) * 10 ^ grid - magnitude.value| < 10 ^ grid) :
    ∃ found, magnitude.nearestOnGrid? grid = some found := by
  have power : (0 : ℚ) < 10 ^ grid := by
    positivity
  have scaledNear : |(number : ℚ) - magnitude.value / 10 ^ grid| < 1 := by
    refine lt_of_mul_lt_mul_right ?_ power.le
    rw [one_mul, ← abs_of_pos power, ← abs_mul, abs_of_pos power, sub_mul,
      div_mul_cancel₀ _ power.ne']
    exact near
  have neighbour :=
    eq_floor_or_eq_succ scaledNear (div_nonneg nonneg power.le)
  rw [← Option.ne_none_iff_exists']
  unfold nearestOnGrid?
  rcases neighbour with isBelow | isAbove
  · rw [isBelow] at inside
    dsimp only
    split_ifs <;> simp_all
  · rw [isAbove] at inside
    dsimp only
    split_ifs <;> simp_all

/-- On a grid of fifteen digits the search finds the point that rounds back. -/
theorem nearestOnGrid?_of_roundsBack
    (normal : magnitude.Normal)
    {grid : ℤ}
    (fine : Int.log 10 magnitude.value - 14 ≤ grid)
    {number : ℕ}
    (inside : magnitude.roundsBack (number * 10 ^ grid) = true) :
    magnitude.nearestOnGrid? grid = some number := by
  have unit := normal.unit_lt fine
  have power : (0 : ℚ) < 2 ^ magnitude.exponent := by
    positivity
  have near := abs_sub_le_of_roundsBack inside
  obtain ⟨found, shape⟩ :=
    exists_nearestOnGrid? normal.value_pos.le inside (by linarith)
  rw [shape, normal.eq_of_roundsBack fine inside
    (roundsBack_of_nearestOnGrid? shape)]

/--
The search stops no later than at a grid of fifteen digits with a point that
rounds back.
-/
theorem searchGrids_of_roundsBack
    (normal : magnitude.Normal)
    {grid : ℤ}
    (fine : Int.log 10 magnitude.value - 14 ≤ grid)
    {number : ℕ}
    (inside : magnitude.roundsBack (number * 10 ^ grid) = true)
    (finer : ℕ)
    {start : ℤ}
    (coarser : grid ≤ start)
    (reached : start - grid < finer) :
    (magnitude.searchGrids finer start).value = number * 10 ^ grid ∧
      grid ≤ (magnitude.searchGrids finer start).exponent := by
  induction finer generalizing start with
  | zero =>
      omega
  | succ finer inductionHypothesis =>
      rw [searchGrids]
      cases shape : magnitude.nearestOnGrid? start with
      | some found =>
          -- A point of a coarser grid is a point of this one.
          obtain ⟨steps, apart⟩ :=
            Int.eq_ofNat_of_zero_le (sub_nonneg.mpr coarser)
          have refined :
              (found : ℚ) * 10 ^ start =
                ((found * 10 ^ steps : ℕ) : ℚ) * 10 ^ grid := by
            rw [sub_eq_iff_eq_add.mp apart, zpow_add₀ (by norm_num)]
            push_cast
            rw [zpow_natCast]
            ring
          have foundInside := roundsBack_of_nearestOnGrid? shape
          rw [refined] at foundInside
          refine ⟨?_, coarser⟩
          rw [Digits.value, refined,
            normal.eq_of_roundsBack fine foundInside inside]
      | none =>
          have strictly : grid ≠ start := by
            rintro rfl
            rw [nearestOnGrid?_of_roundsBack normal fine inside] at shape
            contradiction
          exact inductionHypothesis (by omega) (by push_cast at reached; omega)

/-- Dropping trailing zeros keeps the value and never makes the grid finer. -/
theorem value_dropTrailingZeros (bound : ℕ) (digits : Digits) :
    (dropTrailingZeros bound digits).value = digits.value ∧
      digits.exponent ≤ (dropTrailingZeros bound digits).exponent := by
  induction bound generalizing digits with
  | zero =>
      exact ⟨rfl, le_rfl⟩
  | succ bound inductionHypothesis =>
      rw [dropTrailingZeros]
      split
      · rename_i trailing
        obtain ⟨same, finer⟩ :=
          inductionHypothesis ⟨digits.number / 10, digits.exponent + 1⟩
        refine ⟨same.trans ?_, by simp only at finer; omega⟩
        have split : digits.number = 10 * (digits.number / 10) := by
          omega
        rw [Digits.value, Digits.value, zpow_add_one₀ (by norm_num)]
        conv_rhs => rw [split]
        push_cast
        ring
      · exact ⟨rfl, le_rfl⟩

/--
The numbers that round back to a magnitude span more than one grid of seventeen
digits.
-/
theorem grid_lt
    (fits : magnitude.significand < 2 ^ 53)
    (positive : 0 < magnitude.value)
    {grid : ℤ}
    (fine : grid ≤ Int.log 10 magnitude.value - 16) :
    (10 : ℚ) ^ grid < magnitude.halfGapBelow + magnitude.halfGapAbove := by
  have power : (0 : ℚ) < 2 ^ magnitude.exponent := by
    positivity
  have scaled : (10 : ℚ) ^ grid * 10 ^ 16 ≤ magnitude.value := by
    refine le_trans ?_ (Int.zpow_log_le_self (b := 10) (by norm_num)
      positive)
    push_cast
    rw [← zpow_natCast, ← zpow_add₀ (by norm_num)]
    exact zpow_le_zpow_right₀ (by norm_num) (by push_cast; omega)
  have above : magnitude.halfGapAbove = 2 ^ magnitude.exponent / 2 :=
    two_zpow_sub_one _
  rw [above]
  unfold halfGapBelow
  unfold value at scaled
  split
  · rename_i atPower
    rw [two_zpow_sub_two]
    rw [atPower.1] at scaled
    norm_num at scaled
    linarith
  · rw [two_zpow_sub_one]
    have bounded : (magnitude.significand : ℚ) < 2 ^ 53 := by
      exact_mod_cast fits
    have size := mul_lt_mul_of_pos_right bounded power
    norm_num at scaled size
    linarith

theorem roundsBack_of_inside
    {candidate : ℚ}
    (above : magnitude.value - magnitude.halfGapBelow < candidate)
    (below : candidate < magnitude.value + magnitude.halfGapAbove) :
    magnitude.roundsBack candidate = true :=
  roundsBack_iff.mpr ⟨⟨above.le, below.le⟩, .inr ⟨above, below⟩⟩

theorem halfGaps_pos (magnitude : Binary64) :
    0 < magnitude.halfGapBelow ∧ 0 < magnitude.halfGapAbove := by
  unfold halfGapBelow halfGapAbove
  split <;> constructor <;> positivity

/--
A grid that is narrower than the interval of a magnitude has a point in it.
-/
theorem exists_nearestOnGrid?_of_lt
    (nonneg : 0 ≤ magnitude.value)
    {grid : ℤ}
    (narrow :
      (10 : ℚ) ^ grid < magnitude.halfGapBelow + magnitude.halfGapAbove) :
    ∃ found, magnitude.nearestOnGrid? grid = some found := by
  have power : (0 : ℚ) < 10 ^ grid := by
    positivity
  obtain ⟨gapBelow, gapAbove⟩ := halfGaps_pos magnitude
  obtain ⟨number, isFloor⟩ :
      ∃ number : ℕ, (magnitude.value / 10 ^ grid).floor = number :=
    Int.eq_ofNat_of_zero_le
      (Rat.le_floor_iff.mpr (by exact_mod_cast div_nonneg nonneg power.le))
  have below := Rat.floor_le (magnitude.value / 10 ^ grid)
  have above := Rat.lt_floor_add_one (magnitude.value / 10 ^ grid)
  rw [isFloor] at below above
  push_cast at below above
  rw [le_div_iff₀ power] at below
  rw [div_lt_iff₀ power, add_mul, one_mul] at above
  by_cases near :
      magnitude.value - number * 10 ^ grid < magnitude.halfGapBelow
  · refine exists_nearestOnGrid? nonneg
      (roundsBack_of_inside (by linarith) (by linarith)) ?_
    rw [abs_sub_comm, abs_of_nonneg (by linarith)]
    linarith
  · have next :
        ((number + 1 : ℕ) : ℚ) * 10 ^ grid =
          number * 10 ^ grid + 10 ^ grid := by
      push_cast
      ring
    have inside :
        magnitude.roundsBack (((number + 1 : ℕ) : ℚ) * 10 ^ grid) =
          true := by
      rw [next]
      exact roundsBack_of_inside (by linarith) (by linarith)
    refine exists_nearestOnGrid? nonneg inside ?_
    rw [next, abs_of_nonneg (by linarith)]
    linarith

/-- A point that is found on a grid is at most one above the magnitude. -/
theorem le_of_nearestOnGrid?
    {grid : ℤ}
    {number : ℕ}
    (found : magnitude.nearestOnGrid? grid = some number) :
    number ≤ (magnitude.value / 10 ^ grid).floor.natAbs + 1 := by
  unfold nearestOnGrid? at found
  dsimp only at found
  split_ifs at found <;> cases found <;> omega

/--
A point that is found on a grid of at most seventeen digits has no more of
them.
-/
theorem number_le_of_nearestOnGrid?
    (positive : 0 < magnitude.value)
    {grid : ℤ}
    (coarse : Int.log 10 magnitude.value - 16 ≤ grid)
    {number : ℕ}
    (found : magnitude.nearestOnGrid? grid = some number) :
    number ≤ 10 ^ 17 := by
  have power : (0 : ℚ) < 10 ^ grid := by
    positivity
  have bounded : magnitude.value / 10 ^ grid < 10 ^ 17 := by
    rw [div_lt_iff₀ power, ← zpow_natCast, ← zpow_add₀ (by norm_num)]
    refine (Int.lt_zpow_iff_log_lt (b := 10) (by norm_num) positive).mpr ?_
    push_cast
    omega
  have below : (magnitude.value / 10 ^ grid).floor < 10 ^ 17 :=
    Rat.floor_lt_iff.mpr (by exact_mod_cast bounded)
  have nonneg : 0 ≤ (magnitude.value / 10 ^ grid).floor :=
    Rat.le_floor_iff.mpr
      (by exact_mod_cast div_nonneg positive.le power.le)
  have least := le_of_nearestOnGrid? found
  omega

/-- The search ends with at most seventeen digits. -/
theorem searchGrids_number_le
    (fits : magnitude.significand < 2 ^ 53)
    (positive : 0 < magnitude.value)
    (finer : ℕ)
    {start : ℤ}
    (reached : start - (Int.log 10 magnitude.value - 16) < finer)
    (coarse : Int.log 10 magnitude.value - 16 ≤ start) :
    (magnitude.searchGrids finer start).number ≤ 10 ^ 17 := by
  induction finer generalizing start with
  | zero =>
      omega
  | succ finer inductionHypothesis =>
      rw [searchGrids]
      cases shape : magnitude.nearestOnGrid? start with
      | some found =>
          exact number_le_of_nearestOnGrid? positive coarse shape
      | none =>
          have strictly : start ≠ Int.log 10 magnitude.value - 16 := by
            rintro rfl
            obtain ⟨found, isFound⟩ :=
              exists_nearestOnGrid?_of_lt positive.le
                (grid_lt fits positive le_rfl)
            rw [isFound] at shape
            contradiction
          exact inductionHypothesis (by push_cast at reached; omega) (by omega)

theorem dropTrailingZeros_number_le (bound : ℕ) (digits : Digits) :
    (dropTrailingZeros bound digits).number ≤ digits.number := by
  induction bound generalizing digits with
  | zero =>
      exact le_rfl
  | succ bound inductionHypothesis =>
      rw [dropTrailingZeros]
      split
      · exact (inductionHypothesis _).trans (Nat.div_le_self ..)
      · exact le_rfl

/-- Seventeen digits are enough for every magnitude. -/
theorem shortestDigits_number_le
    (fits : magnitude.significand < 2 ^ 53)
    (positive : 0 < magnitude.value) :
    magnitude.shortestDigits.number ≤ 10 ^ 17 := by
  unfold shortestDigits
  rw [floorLog_eq_log (by norm_num) positive]
  exact (dropTrailingZeros_number_le ..).trans
    (searchGrids_number_le fits positive 17 (by omega) (by omega))

/--
A number of fifteen digits that rounds back is the number of the shortest
digits.
-/
theorem shortestDigits_of_roundsBack
    (normal : magnitude.Normal)
    {grid : ℤ}
    (fine : Int.log 10 magnitude.value - 14 ≤ grid)
    (coarse : grid ≤ Int.log 10 magnitude.value)
    {number : ℕ}
    (inside : magnitude.roundsBack (number * 10 ^ grid) = true) :
    magnitude.shortestDigits.value = number * 10 ^ grid ∧
      grid ≤ magnitude.shortestDigits.exponent := by
  unfold shortestDigits
  rw [floorLog_eq_log (by norm_num) normal.value_pos]
  obtain ⟨value, finer⟩ :=
    searchGrids_of_roundsBack normal fine inside 17 coarse (by omega)
  obtain ⟨same, coarser⟩ :=
    value_dropTrailingZeros 17
      (magnitude.searchGrids 17 (Int.log 10 magnitude.value))
  exact ⟨same.trans value, finer.trans coarser⟩

end LiquidityReturns.Binary64
