import Mathlib
import LiquidityReturns.Proofs.Returns.Computability
import LiquidityReturns.Proofs.Returns.ExactSums

namespace LiquidityReturns

/-!
# The identities of the returns

The realized return is what was withdrawn less what was added, and the total
return adds what can be redeemed.  Both are rounded once, so they differ from
the exact numbers by a relative error only, and not at all when the three
values have few enough digits to be summed exactly.
-/

namespace Valuation

/--
A difference of values is off by at most one part in `10 ^ 28` of the exact
one.
-/
theorem abs_valueIn_sub_le
    {left right difference : Valuation}
    (subtracted : left.sub right = .ok difference)
    (unit : Denomination) :
    |difference.valueIn unit - (left.valueIn unit - right.valueIn unit)| ≤
      |left.valueIn unit - right.valueIn unit| / 10 ^ 28 :=
  Checked.abs_difference_sub_le (sub_eq_ok_iff.mp subtracted unit)

/-- A sum of values is off by at most one part in `10 ^ 28` of the exact one. -/
theorem abs_valueIn_add_le
    {left right sum : Valuation}
    (added : left.add right = .ok sum)
    (unit : Denomination) :
    |sum.valueIn unit - (left.valueIn unit + right.valueIn unit)| ≤
      |left.valueIn unit + right.valueIn unit| / 10 ^ 28 :=
  Checked.abs_sum_sub_le (add_eq_ok_iff.mp added unit)

/-- A difference of exactly summable values is exact. -/
theorem valueIn_sub
    {left right difference : Valuation}
    (subtracted : left.sub right = .ok difference)
    {unit : Denomination}
    {rest : List ℚ}
    (summable :
      ExactlySummable (left.valueIn unit :: right.valueIn unit :: rest)) :
    difference.valueIn unit = left.valueIn unit - right.valueIn unit := by
  obtain ⟨exact, found, value⟩ := summable.sub_eq_ok
  have same : difference.inUnit unit = exact :=
    Except.ok.inj ((sub_eq_ok_iff.mp subtracted unit).symm.trans found)
  unfold valueIn
  rw [same, value]

/-- A sum of exactly summable values is exact. -/
theorem valueIn_add
    {left right sum : Valuation}
    (added : left.add right = .ok sum)
    {unit : Denomination}
    {rest : List ℚ}
    (summable :
      ExactlySummable (left.valueIn unit :: right.valueIn unit :: rest)) :
    sum.valueIn unit = left.valueIn unit + right.valueIn unit := by
  obtain ⟨exact, found, value⟩ := summable.add_eq_ok
  have same : sum.inUnit unit = exact :=
    Except.ok.inj ((add_eq_ok_iff.mp added unit).symm.trans found)
  unfold valueIn
  rw [same, value]

end Valuation

/--
The three values that the returns are made of: withdrawn, added and redeemable.
-/
def returnTerms
    (totals : FlowTotals)
    (redeemable : Flow)
    (unit : Denomination) :
    List ℚ :=
  [totals.withdrawn.value.valueIn unit, totals.added.value.valueIn unit,
    redeemable.value.valueIn unit]

/--
The exact realized return of totals: what was withdrawn less what was added.
-/
def FlowTotals.exactRealized
    (totals : FlowTotals)
    (unit : Denomination) :
    ℚ :=
  totals.withdrawn.value.valueIn unit - totals.added.value.valueIn unit

namespace ReturnSummary

/-- The realized return of exactly summable values is exact. -/
theorem realizedReturn_eq
    {totals : FlowTotals}
    {redeemable : Flow}
    {summary : ReturnSummary}
    (summarized : ofFlows totals redeemable = .ok summary)
    {unit : Denomination}
    (summable : ExactlySummable (returnTerms totals redeemable unit)) :
    summary.realizedReturn.valueIn unit = totals.exactRealized unit := by
  obtain ⟨_, _, _, subtracted, _⟩ := ofFlows_eq_ok_iff.mp summarized
  exact Valuation.valueIn_sub subtracted summable

/-- The total return of exactly summable values is exact. -/
theorem totalReturn_eq
    {totals : FlowTotals}
    {redeemable : Flow}
    {summary : ReturnSummary}
    (summarized : ofFlows totals redeemable = .ok summary)
    {unit : Denomination}
    (summable : ExactlySummable (returnTerms totals redeemable unit)) :
    summary.totalReturn.valueIn unit =
      totals.exactRealized unit + redeemable.value.valueIn unit := by
  have realized := realizedReturn_eq summarized summable
  obtain ⟨_, _, _, _, added⟩ := ofFlows_eq_ok_iff.mp summarized
  have remaining :
      ExactlySummable
        [summary.realizedReturn.valueIn unit,
          redeemable.value.valueIn unit] := by
    rw [realized]
    exact ExactlySummable.sub_first summable
  rw [Valuation.valueIn_add added remaining, realized]

/-- The error of the total return is that of its two roundings. -/
theorem abs_totalReturn_sub_le
    {totals : FlowTotals}
    {redeemable : Flow}
    {summary : ReturnSummary}
    (summarized : ofFlows totals redeemable = .ok summary)
    (unit : Denomination) :
    |summary.totalReturn.valueIn unit -
        (totals.exactRealized unit + redeemable.value.valueIn unit)| ≤
      (|totals.exactRealized unit| +
          |summary.realizedReturn.valueIn unit +
            redeemable.value.valueIn unit|) / 10 ^ 28 := by
  obtain ⟨_, _, _, subtracted, added⟩ := ofFlows_eq_ok_iff.mp summarized
  have first := Valuation.abs_valueIn_sub_le subtracted unit
  have second := Valuation.abs_valueIn_add_le added unit
  calc
    |summary.totalReturn.valueIn unit -
        (totals.exactRealized unit + redeemable.value.valueIn unit)| =
        |(summary.totalReturn.valueIn unit -
            (summary.realizedReturn.valueIn unit +
              redeemable.value.valueIn unit)) +
          (summary.realizedReturn.valueIn unit -
            totals.exactRealized unit)| := by
      congr 1
      ring
    _ ≤ |summary.totalReturn.valueIn unit -
            (summary.realizedReturn.valueIn unit +
              redeemable.value.valueIn unit)| +
          |summary.realizedReturn.valueIn unit -
            totals.exactRealized unit| :=
      abs_add_le _ _
    _ ≤ |summary.realizedReturn.valueIn unit +
            redeemable.value.valueIn unit| / 10 ^ 28 +
          |totals.exactRealized unit| / 10 ^ 28 :=
      add_le_add second first
    _ = _ := by
      rw [← add_div, add_comm]

/--
Flows whose values are exactly summable in every unit can be put together.
-/
theorem exists_ofFlows_of_summable
    {totals : FlowTotals}
    {redeemable : Flow}
    (summable :
      ∀ unit, ExactlySummable (returnTerms totals redeemable unit)) :
    ∃ summary, ofFlows totals redeemable = .ok summary := by
  obtain ⟨realized, subtracted, realized_eq⟩ :=
    Valuation.exists_combine fun unit => (summable unit).sub_eq_ok
  have remaining :
      ∀ unit,
        ExactlySummable
          [(realized.inUnit unit).value,
            (redeemable.value.inUnit unit).value] := by
    intro unit
    rw [realized_eq]
    exact (summable unit).sub_first
  obtain ⟨total, added, _⟩ :=
    Valuation.exists_combine fun unit => (remaining unit).add_eq_ok
  exact exists_ofFlows subtracted added

end ReturnSummary

/--
In every unit of account both returns are off by relative errors only, they
are exact when the three values are exactly summable, and if these are so in
every unit then there is a summary.
-/
theorem ofFlows_returns_accurate
    (totals : FlowTotals)
    (redeemable : Flow) :
    (∀ summary,
      ReturnSummary.ofFlows totals redeemable = .ok summary →
        ∀ unit,
          |summary.totalReturn.valueIn unit -
              (totals.exactRealized unit +
                redeemable.value.valueIn unit)| ≤
            (|totals.exactRealized unit| +
                |summary.realizedReturn.valueIn unit +
                  redeemable.value.valueIn unit|) / 10 ^ 28 ∧
          |summary.realizedReturn.valueIn unit -
              totals.exactRealized unit| ≤
            |totals.exactRealized unit| / 10 ^ 28 ∧
          (ExactlySummable (returnTerms totals redeemable unit) →
            summary.realizedReturn.valueIn unit =
                totals.exactRealized unit ∧
              summary.totalReturn.valueIn unit =
                totals.exactRealized unit +
                  redeemable.value.valueIn unit)) ∧
    ((∀ unit, ExactlySummable (returnTerms totals redeemable unit)) →
      ∃ summary, ReturnSummary.ofFlows totals redeemable = .ok summary) := by
  refine ⟨?_, ReturnSummary.exists_ofFlows_of_summable⟩
  intro summary summarized unit
  obtain ⟨_, _, _, subtracted, _⟩ :=
    ReturnSummary.ofFlows_eq_ok_iff.mp summarized
  refine ⟨ReturnSummary.abs_totalReturn_sub_le summarized unit,
    Valuation.abs_valueIn_sub_le subtracted unit, ?_⟩
  intro summable
  exact ⟨ReturnSummary.realizedReturn_eq summarized summable,
    ReturnSummary.totalReturn_eq summarized summable⟩

namespace Sample

/-- What was added to the sample pool and withdrawn from it. -/
def totals : FlowTotals where
  added := {
    rune := integral 5000
    asset := integral 100
    value := ⟨integral 7000, integral 350, integral 14000⟩
  }
  withdrawn := {
    rune := integral 1000
    asset := .zero
    value := ⟨integral 1000, integral 40, integral 2000⟩
  }

/-- What is left in the sample pool. -/
def share : Flow where
  rune := integral 4100
  asset := integral 90
  value := ⟨integral 5900, integral 295, integral 11800⟩

end Sample

/-- Integral values have exact returns. -/
theorem ofFlows_returns_accurate_sample :
    ∃ summary,
      ReturnSummary.ofFlows Sample.totals Sample.share = .ok summary ∧
        ∀ unit,
          summary.realizedReturn.valueIn unit =
              Sample.totals.exactRealized unit ∧
            summary.totalReturn.valueIn unit =
              Sample.totals.exactRealized unit +
                Sample.share.value.valueIn unit := by
  have summable :
      ∀ unit,
        ExactlySummable (returnTerms Sample.totals Sample.share unit) := by
    intro unit
    apply ExactlySummable.of_integral <;> cases unit <;> decide +kernel
  have accurate := ofFlows_returns_accurate Sample.totals Sample.share
  obtain ⟨summary, summarized⟩ := accurate.2 summable
  refine ⟨summary, summarized, fun unit => ?_⟩
  exact (accurate.1 summary summarized unit).2.2 (summable unit)

end LiquidityReturns
