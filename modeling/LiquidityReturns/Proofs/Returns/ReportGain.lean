import Mathlib
import LiquidityReturns.Decimal.Text
import LiquidityReturns.Proofs.Decimal.Descaled
import LiquidityReturns.Proofs.Decimal.Monotone
import LiquidityReturns.Proofs.Returns.ReportSides

namespace LiquidityReturns

/-!
# Gain and percentage of a report

The gain of a side is a rounded difference, its percentage goes through a
rounded quotient, a difference and a product.  Every rounding keeps the order,
so the percentage is monotone in the exact ratio of what is held to what was
added; holding what was added is zero percent, and holding nothing is a loss of
all of it.  Comparing with these two gives the sign of the percentage.  The
gain has the sign of the exact difference, because a difference of two numbers
is a multiple of the last place and does not vanish by rounding.
-/

namespace Checked

section Order

variable {left larger right lower upper : Decimal}

/-- A difference grows with the number that is subtracted from. -/
theorem sub_mono
    (ordered : left.value ≤ larger.value)
    (found : sub left right = .ok lower)
    (largerFound : sub larger right = .ok upper) :
    lower.value ≤ upper.value :=
  Decimal.nearest?_mono (sub_le_sub_right ordered right.value)
    (sub_eq_ok_iff.mp found) (sub_eq_ok_iff.mp largerFound)

/-- A product with a number that is not negative grows with the other number. -/
theorem mul_mono
    (nonneg : 0 ≤ right.value)
    (ordered : left.value ≤ larger.value)
    (found : mul left right = .ok lower)
    (largerFound : mul larger right = .ok upper) :
    lower.value ≤ upper.value :=
  Decimal.nearest?_mono (mul_le_mul_of_nonneg_right ordered nonneg)
    (mul_eq_ok_iff.mp found) (mul_eq_ok_iff.mp largerFound)

/-- A quotient by a positive number grows with the number that is divided. -/
theorem div_mono
    (positive : 0 < right.value)
    (ordered : left.value ≤ larger.value)
    (found : div left right = .ok lower)
    (largerFound : div larger right = .ok upper) :
    lower.value ≤ upper.value := by
  have divisor := (Decimal.isZero_eq_false_iff right).mpr positive.ne'
  exact Decimal.nearest?_mono
    (div_le_div_of_nonneg_right ordered positive.le)
    ((div_eq_ok_iff divisor).mp found)
    ((div_eq_ok_iff divisor).mp largerFound)

end Order

section Difference

variable {left right difference : Decimal}

/-- A difference vanishes only between equal numbers. -/
theorem eq_of_difference_eq_zero
    (subtracted : sub left right = .ok difference)
    (vanishes : difference.value = 0) :
    left = right := by
  have near := abs_difference_sub_le subtracted
  rw [vanishes, zero_sub, abs_neg] at near
  have none_left : |left.value - right.value| = 0 := by
    linarith [abs_nonneg (left.value - right.value)]
  apply Decimal.value_injective
  exact sub_eq_zero.mp (abs_eq_zero.mp none_left)

/-- A difference above zero is of a larger and a smaller number. -/
theorem lt_of_difference_pos
    (subtracted : sub left right = .ok difference)
    (positive : 0 < difference.value) :
    right.value < left.value := by
  by_contra! ordered
  have nonpos := sub_mono ordered subtracted (sub_self right)
  rw [Decimal.value_zero] at nonpos
  exact absurd positive nonpos.not_gt

/-- A difference below zero is of a smaller and a larger number. -/
theorem lt_of_difference_neg
    (subtracted : sub left right = .ok difference)
    (negative : difference.value < 0) :
    left.value < right.value := by
  by_contra! ordered
  have nonneg := sub_mono ordered (sub_self right) subtracted
  rw [Decimal.value_zero] at nonneg
  exact absurd negative nonneg.not_gt

end Difference

end Checked

namespace SideReport

section Percent

variable {held added percent : Decimal}

/-- A percentage is a quotient, less one, times a hundred. -/
theorem percent_eq_ok_iff :
    SideReport.percent held added = .ok percent ↔
      ∃ ratio excess,
        Checked.div held added = .ok ratio ∧
          Checked.sub ratio .one = .ok excess ∧
          Checked.mul excess .hundred = .ok percent := by
  unfold SideReport.percent
  simp only [Outcome.bind_eq_ok_iff, exists_and_left]

/-- Holding more is no smaller percentage of what was added. -/
theorem percent_mono
    {otherHeld other : Decimal}
    (positive : 0 < added.value)
    (ordered : held.value ≤ otherHeld.value)
    (found : SideReport.percent held added = .ok percent)
    (otherFound : SideReport.percent otherHeld added = .ok other) :
    percent.value ≤ other.value := by
  obtain ⟨ratio, excess, divided, subtracted, multiplied⟩ :=
    percent_eq_ok_iff.mp found
  obtain ⟨otherRatio, otherExcess, otherDivided, otherSubtracted,
      otherMultiplied⟩ :=
    percent_eq_ok_iff.mp otherFound
  have ratio_le := Checked.div_mono positive ordered divided otherDivided
  have excess_le := Checked.sub_mono ratio_le subtracted otherSubtracted
  exact Checked.mul_mono (by simp) excess_le multiplied otherMultiplied

/-- Holding what was added is zero percent. -/
theorem percent_self (divisor : added.isZero = false) :
    SideReport.percent added added = .ok .zero := by
  have nonzero := (Decimal.isZero_eq_false_iff added).mp divisor
  have divided : Checked.div added added = .ok .one :=
    Checked.div_of_value_eq divisor
      (by rw [Decimal.value_one, div_self nonzero])
  exact percent_eq_ok_iff.mpr
    ⟨.one, .zero, divided, Checked.sub_self .one,
      Checked.mul_zero_left .hundred⟩

/-- Holding nothing is a loss of all that was added. -/
theorem percent_zero (added : Decimal) :
    SideReport.percent .zero added = .ok Decimal.hundred.neg := by
  have subtracted : Checked.sub .zero .one = .ok Decimal.one.neg :=
    Checked.sub_of_value_eq (by simp)
  have multiplied :
      Checked.mul Decimal.one.neg .hundred = .ok Decimal.hundred.neg :=
    Checked.mul_of_value_eq (by simp)
  exact percent_eq_ok_iff.mpr
    ⟨.zero, Decimal.one.neg, Checked.div_zero_left added, subtracted,
      multiplied⟩

/--
There is a percentage if little is held and the divisor is one ledger unit at
least.
-/
theorem exists_percent
    (held_le : |held.value| ≤ (2 * 10 ^ 18 : ℕ))
    (unit_le : 1 / 10 ^ 8 ≤ |added.value|) :
    ∃ percent, SideReport.percent held added = .ok percent := by
  have positive : 0 < |added.value| :=
    lt_of_lt_of_le (by norm_num) unit_le
  have divisor : added.isZero = false :=
    (Decimal.isZero_eq_false_iff added).mpr (abs_pos.mp positive)
  have quotient_le :
      |held.value / added.value| ≤ (2 * 10 ^ 26 : ℕ) := by
    rw [abs_div, div_le_iff₀ positive]
    push_cast at held_le ⊢
    linarith
  obtain ⟨ratio, rounded, ratio_le⟩ :=
    Decimal.exists_nearest?_le quotient_le (by decide)
  have divided : Checked.div held added = .ok ratio :=
    (Checked.div_eq_ok_iff divisor).mpr rounded
  have one_le : |Decimal.one.value| ≤ (1 : ℕ) := by
    simp
  obtain ⟨excess, subtracted, excess_le⟩ :=
    Checked.exists_sub_le ratio_le one_le (by decide)
  have hundred_le : |Decimal.hundred.value| ≤ (100 : ℕ) := by
    simp
  obtain ⟨percent, multiplied, _⟩ :=
    Checked.exists_mul_le excess_le hundred_le (by decide)
  exact ⟨percent,
    percent_eq_ok_iff.mpr
      ⟨ratio, excess, divided, subtracted, multiplied⟩⟩

/-- The percentage of a divisor other than zero is not a division by zero. -/
theorem percent_ne_divisionByZero (divisor : added.isZero = false) :
    SideReport.percent held added ≠ .error .divisionByZero := by
  intro failed
  unfold SideReport.percent at failed
  simp only [Outcome.bind_eq_error_iff] at failed
  rcases failed with divided | ⟨_, _, subtracted | ⟨_, _, multiplied⟩⟩
  · have zero := (Checked.div_eq_divisionByZero_iff.mp divided).2
    rw [divisor] at zero
    contradiction
  · exact Checked.orOverflow_ne_divisionByZero _ subtracted
  · exact Checked.mul_ne_divisionByZero _ _ multiplied

end Percent

section PercentGain

variable {held added : Decimal}

/-- There is no percentage exactly when nothing was added. -/
theorem percentGain_eq_ok_none_iff :
    percentGain held added = .ok none ↔ added.value = 0 := by
  rw [← Decimal.isZero_iff_value]
  unfold percentGain
  cases added.isZero <;> simp [Outcome.map_eq_ok_iff]

/-- The percentage is that of what was added when anything was. -/
theorem percentGain_of_value_ne_zero (nonzero : added.value ≠ 0) :
    percentGain held added = (percent held added).map some := by
  have divisor := (Decimal.isZero_eq_false_iff added).mpr nonzero
  unfold percentGain
  rw [divisor]
  rfl

/-- The percentage is never a division by zero. -/
theorem percentGain_ne_divisionByZero :
    percentGain held added ≠ .error .divisionByZero := by
  intro failed
  unfold percentGain at failed
  split at failed
  · contradiction
  · rename_i divisor
    exact percent_ne_divisionByZero (Bool.eq_false_iff.mpr divisor)
      (Outcome.map_eq_error_iff.mp failed)

end PercentGain

/--
How a percentage agrees with a gain, where `held` is what is held of what was
`added`.
-/
structure PercentAgrees (gain percent held added : Decimal) : Prop where
  nonneg_of_gain : 0 < gain.value → 0 ≤ percent.value
  nonpos_of_loss : gain.value < 0 → percent.value ≤ 0
  zero_of_neither : gain.value = 0 → percent.text = "0" ∧ held = added
  all_lost_at_most : 0 ≤ held.value → -100 ≤ percent.value

/-- The percentage of a positive amount agrees with the gain. -/
theorem percentAgrees_of_pos
    {gain percent held added : Decimal}
    (positive : 0 < added.value)
    (subtracted : Checked.sub held added = .ok gain)
    (divided : SideReport.percent held added = .ok percent) :
    PercentAgrees gain percent held added := by
  have even :=
    percent_self ((Decimal.isZero_eq_false_iff added).mpr positive.ne')
  refine ⟨?_, ?_, ?_, ?_⟩
  · intro gained
    have more := Checked.lt_of_difference_pos subtracted gained
    have least := percent_mono positive more.le even divided
    rwa [Decimal.value_zero] at least
  · intro lost
    have less := Checked.lt_of_difference_neg subtracted lost
    have most := percent_mono positive less.le divided even
    rwa [Decimal.value_zero] at most
  · intro neither
    have same := Checked.eq_of_difference_eq_zero subtracted neither
    subst same
    cases even.symm.trans divided
    exact ⟨rfl, rfl⟩
  · intro nonneg
    have least :=
      percent_mono positive (by rwa [Decimal.value_zero])
        (percent_zero added) divided
    rwa [Decimal.value_neg, Decimal.value_hundred] at least

/--
A side whose percentage is there when anything was added, and agrees with its
gain.
-/
structure GainAgrees (report : SideReport) (held added : Decimal) : Prop where
  sub_eq_gain : Checked.sub held added = .ok report.gain
  gainPercent_eq_none_iff : report.gainPercent = none ↔ added.value = 0
  exists_percent :
    0 < added.value →
      ∃ percent,
        report.gainPercent = some percent ∧
          PercentAgrees report.gain percent held added

/-- The gain and the percentage of a side agree. -/
theorem gainAgrees_of_ofAmounts
    {added withdrawn redeemable : Decimal}
    {report : SideReport}
    (computed : ofAmounts added withdrawn redeemable = .ok report) :
    ∃ held,
      Checked.add redeemable.descaled withdrawn.descaled = .ok held ∧
        report.GainAgrees held added.descaled := by
  obtain ⟨_, _, _, held, summed, subtracted, divided⟩ :=
    ofAmounts_eq_ok_iff.mp computed
  refine ⟨held, summed, subtracted, ?_, ?_⟩
  · rw [← percentGain_eq_ok_none_iff, divided, Except.ok.injEq]
  · intro positive
    rw [percentGain_of_value_ne_zero positive.ne',
      Outcome.map_eq_ok_iff] at divided
    obtain ⟨percent, found, shown⟩ := divided
    exact ⟨percent, shown.symm,
      percentAgrees_of_pos positive subtracted found⟩

/-- The report of a side is never a division by zero. -/
theorem ofAmounts_ne_divisionByZero (added withdrawn redeemable : Decimal) :
    ofAmounts added withdrawn redeemable ≠ .error .divisionByZero := by
  intro failed
  unfold ofAmounts at failed
  simp only [Outcome.bind_eq_error_iff, Outcome.pure_eq_ok] at failed
  rcases failed with
    summed | ⟨_, _, subtracted | ⟨_, _, divided | ⟨_, _, stop⟩⟩⟩
  · exact Checked.add_ne_divisionByZero _ _ summed
  · exact Checked.orOverflow_ne_divisionByZero _ subtracted
  · exact percentGain_ne_divisionByZero divided
  · contradiction

/-- Amounts of a side of which a report can be made. -/
structure WithinReach (added withdrawn redeemable : Decimal) : Prop where
  added_eq_zero_or_large : added.value = 0 ∨ 1 ≤ |added.value|
  withdrawn_le : |withdrawn.value| ≤ 10 ^ 26
  redeemable_le : |redeemable.value| ≤ 10 ^ 26

/-- There is a gain in percent unless much is held of very little. -/
theorem exists_percentGain
    {held added : Decimal}
    (held_le : |held.value| ≤ (2 * 10 ^ 18 : ℕ))
    (large : added.value = 0 ∨ 1 ≤ |added.value|) :
    ∃ gainPercent, percentGain held added.descaled = .ok gainPercent := by
  rcases large with nothing | something
  · have none_added : added.descaled.value = 0 := by
      rw [Decimal.value_injective (nothing.trans Decimal.value_zero.symm),
        Decimal.descaled_zero, Decimal.value_zero]
    exact ⟨none, percentGain_eq_ok_none_iff.mpr none_added⟩
  · have unit_le := Decimal.unit_le_abs_descaled something
    have nonzero : added.descaled.value ≠ 0 :=
      abs_pos.mp (lt_of_lt_of_le (by norm_num) unit_le)
    obtain ⟨percent, found⟩ := exists_percent held_le unit_le
    refine ⟨some percent, ?_⟩
    rw [percentGain_of_value_ne_zero nonzero, found]
    rfl

/-- A report of amounts within reach can be made. -/
theorem exists_ofAmounts
    {added withdrawn redeemable : Decimal}
    (reach : WithinReach added withdrawn redeemable) :
    ∃ report, ofAmounts added withdrawn redeemable = .ok report := by
  have withdrawn_le : |withdrawn.descaled.value| ≤ (10 ^ 18 : ℕ) := by
    apply Decimal.abs_descaled_le
    have bounded := reach.withdrawn_le
    push_cast
    linarith
  have redeemable_le : |redeemable.descaled.value| ≤ (10 ^ 18 : ℕ) := by
    apply Decimal.abs_descaled_le
    have bounded := reach.redeemable_le
    push_cast
    linarith
  have added_le : |added.descaled.value| ≤ (10 ^ 21 : ℕ) := by
    apply Decimal.abs_descaled_le
    apply added.abs_value_le_maxCoefficient.trans
    norm_num [Decimal.maxCoefficient]
  obtain ⟨held, summed, held_le⟩ :=
    Checked.exists_add_le redeemable_le withdrawn_le (by decide)
  obtain ⟨gain, subtracted, _⟩ :=
    Checked.exists_sub_le held_le added_le (by decide)
  obtain ⟨gainPercent, divided⟩ :=
    exists_percentGain held_le reach.added_eq_zero_or_large
  exact ⟨{
    added := added.descaled
    withdrawn := withdrawn.descaled
    redeemable := redeemable.descaled
    gain
    gainPercent
  }, ofAmounts_eq_ok_iff.mpr
    ⟨rfl, rfl, rfl, held, summed, subtracted, divided⟩⟩

end SideReport

/--
On each side of a report the percentage is there unless nothing was added, and
where something was it never contradicts the gain: a gain is no negative
percentage, a loss no positive one, and neither is zero percent of the same
amount.  No report fails for a division by zero, and none fails at all for
amounts within reach.
-/
theorem gain_and_percentage_agree :
    ∀ summary : ReturnSummary,
      (∀ report,
        PositionReport.ofSummary summary = .ok report →
          ∀ side : PoolSide,
            ∃ held,
              Checked.add (summary.redeemable.part side.part).descaled
                  (summary.withdrawn.part side.part).descaled = .ok held ∧
                (report.side side).GainAgrees held
                  (summary.added.part side.part).descaled) ∧
        (∀ description,
          PositionReport.ofSummary summary ≠
            .error (.arithmetic .divisionByZero description)) ∧
        ((∀ side : PoolSide,
            SideReport.WithinReach (summary.added.part side.part)
              (summary.withdrawn.part side.part)
              (summary.redeemable.part side.part)) →
          ∃ report, PositionReport.ofSummary summary = .ok report) := by
  intro summary
  refine ⟨?_, ?_, ?_⟩
  · intro report computed side
    have sides := (PositionReport.ofSummary_eq_ok_iff.mp computed).1
    exact SideReport.gainAgrees_of_ofAmounts (sides side)
  · intro description failed
    obtain ⟨side, reason, stopped, same⟩ :=
      PositionReport.exists_side_of_ofSummary_error failed
    cases same
    exact SideReport.ofAmounts_ne_divisionByZero _ _ _ stopped
  · intro reach
    apply PositionReport.exists_ofSummary
    intro side
    exact SideReport.exists_ofAmounts (reach side)

namespace Sample

/--
A position with one unit left of a hundred, and one where nothing was added.
-/
def drained : ReturnSummary where
  added := { Flow.zero with rune := .hundred }
  withdrawn := .zero
  redeemable := { Flow.zero with rune := .one, asset := .one }
  realizedReturn := .zero
  totalReturn := .zero

end Sample

/-- A loss is no positive percentage, and there is none without an addition. -/
theorem gain_and_percentage_agree_sample :
    ∃ report,
      PositionReport.ofSummary Sample.drained = .ok report ∧
        report.asset.gainPercent = none ∧
        ∃ percent,
          report.rune.gainPercent = some percent ∧
            percent.value ≤ 0 ∧ -100 ≤ percent.value := by
  have reach :
      ∀ side : PoolSide,
        SideReport.WithinReach (Sample.drained.added.part side.part)
          (Sample.drained.withdrawn.part side.part)
          (Sample.drained.redeemable.part side.part) := by
    intro side
    cases side
    · exact ⟨by decide +kernel, by decide +kernel, by decide +kernel⟩
    · exact ⟨by decide +kernel, by decide +kernel, by decide +kernel⟩
  have lawful := gain_and_percentage_agree Sample.drained
  obtain ⟨report, made⟩ := lawful.2.2 reach
  obtain ⟨_, _, assetAgrees⟩ := lawful.1 report made .asset
  obtain ⟨held, summed, runeAgrees⟩ := lawful.1 report made .rune
  have left :
      Checked.add Decimal.one.descaled Decimal.zero.descaled =
        .ok Decimal.ledgerUnit := by
    decide +kernel
  have missing :
      Checked.sub Decimal.ledgerUnit Decimal.hundred.descaled =
        .ok ⟨-99, 8, by decide, by decide, by decide⟩ := by
    decide +kernel
  cases left.symm.trans summed
  have lost : (report.side .rune).gain.value < 0 := by
    have found := missing.symm.trans runeAgrees.sub_eq_gain
    rw [← Except.ok.inj found]
    decide +kernel
  obtain ⟨percent, shown, agrees⟩ :=
    runeAgrees.exists_percent (by decide +kernel)
  refine ⟨report, made, ?_, percent, shown, ?_, ?_⟩
  · exact assetAgrees.gainPercent_eq_none_iff.mpr (by decide +kernel)
  · exact agrees.nonpos_of_loss lost
  · exact agrees.all_lost_at_most (by decide +kernel)

end LiquidityReturns
