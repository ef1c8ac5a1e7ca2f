import Mathlib
import LiquidityReturns.Proofs.Pool.Sides
import LiquidityReturns.Proofs.Returns.FlowParts
import LiquidityReturns.Returns.Report

namespace LiquidityReturns

/-!
# The sections of a report

A report has a section for each side of the pool and one for each unit of
account.  It exists when both sides can be computed, and it fails with the
failure of one of them; the values in the units of account are never missing.
-/

namespace PoolSide

/-- The part of a flow that is the amount on one side. -/
def part : PoolSide → FlowPart
  | .rune =>
      .rune
  | .asset =>
      .asset

/-- The gain of a side in the wording of errors. -/
def description : PoolSide → String
  | .rune =>
      "rune gain"
  | .asset =>
      "asset gain"

end PoolSide

namespace SideReport

/-- The report of one side of a summary. -/
def ofSummary
    (summary : ReturnSummary)
    (side : PoolSide) :
    Except ArithmeticError SideReport :=
  ofAmounts (summary.added.part side.part) (summary.withdrawn.part side.part)
    (summary.redeemable.part side.part)

/--
The report of a side holds what is left and withdrawn, and the gain on what was
added.
-/
theorem ofAmounts_eq_ok_iff
    {added withdrawn redeemable : Decimal}
    {report : SideReport} :
    ofAmounts added withdrawn redeemable = .ok report ↔
      report.added = added.descaled ∧
        report.withdrawn = withdrawn.descaled ∧
        report.redeemable = redeemable.descaled ∧
        ∃ held,
          Checked.add redeemable.descaled withdrawn.descaled = .ok held ∧
            Checked.sub held added.descaled = .ok report.gain ∧
            percentGain held added.descaled = .ok report.gainPercent := by
  unfold ofAmounts
  simp only [Outcome.bind_eq_ok_iff, Outcome.pure_eq_ok, Except.ok.injEq]
  constructor
  · intro ⟨held, summed, gain, subtracted, gainPercent, divided, same⟩
    subst same
    exact ⟨rfl, rfl, rfl, held, summed, subtracted, divided⟩
  · intro ⟨sameAdded, sameWithdrawn, sameRedeemable, held, summed,
      subtracted, divided⟩
    refine ⟨held, summed, _, subtracted, _, divided, ?_⟩
    rw [← sameAdded, ← sameWithdrawn, ← sameRedeemable]

end SideReport

namespace PositionReport

/-- The section of one side. -/
def side (report : PositionReport) : PoolSide → SideReport
  | .rune =>
      report.rune
  | .asset =>
      report.asset

/-- The section of one unit of account. -/
def inUnit (report : PositionReport) : Denomination → ValueReport
  | .rune =>
      report.valueInRune
  | .asset =>
      report.valueInAsset
  | .usd =>
      report.valueInUsd

/--
A report exists when both sides do, and has a section for each side and each
unit of account.
-/
theorem ofSummary_eq_ok_iff
    {summary : ReturnSummary}
    {report : PositionReport} :
    ofSummary summary = .ok report ↔
      (∀ side, SideReport.ofSummary summary side = .ok (report.side side)) ∧
        ∀ unit,
          report.inUnit unit =
            ValueReport.ofSummary summary fun value => value.inUnit unit := by
  unfold ofSummary
  simp only [Outcome.bind_eq_ok_iff, Outcome.computing_eq_ok_iff,
    Outcome.pure_eq_ok, Except.ok.injEq]
  constructor
  · intro ⟨rune, runeFound, asset, assetFound, same⟩
    subst same
    constructor
    · intro side
      cases side
      · exact runeFound
      · exact assetFound
    · intro unit
      cases unit <;> rfl
  · intro ⟨sides, units⟩
    have inRune := units .rune
    have inAsset := units .asset
    have inUsd := units .usd
    refine ⟨report.rune, sides .rune, report.asset, sides .asset, ?_⟩
    cases report
    simp only [inUnit] at inRune inAsset inUsd
    rw [inRune, inAsset, inUsd]
    rfl

/-- A report exists when both sides do. -/
theorem exists_ofSummary
    {summary : ReturnSummary}
    (sides :
      ∀ side, ∃ report, SideReport.ofSummary summary side = .ok report) :
    ∃ report, ofSummary summary = .ok report := by
  obtain ⟨rune, runeFound⟩ := sides .rune
  obtain ⟨asset, assetFound⟩ := sides .asset
  refine ⟨⟨rune, asset, .ofSummary summary Valuation.inRune,
    .ofSummary summary Valuation.inAsset,
    .ofSummary summary Valuation.inUsd⟩,
    ofSummary_eq_ok_iff.mpr ⟨?_, ?_⟩⟩
  · intro side
    cases side
    · exact runeFound
    · exact assetFound
  · intro unit
    cases unit <;> rfl

/-- A report that fails does so on one side, and says on which. -/
theorem exists_side_of_ofSummary_error
    {summary : ReturnSummary}
    {failure : ComputationError}
    (failed : ofSummary summary = .error failure) :
    ∃ side reason,
      SideReport.ofSummary summary side = .error reason ∧
        failure = .arithmetic reason side.description := by
  unfold ofSummary at failed
  simp only [Outcome.bind_eq_error_iff, Outcome.computing_eq_error_iff,
    Outcome.pure_eq_ok] at failed
  rcases failed with
    ⟨reason, stopped, same⟩ |
      ⟨_, _, ⟨reason, stopped, same⟩ | ⟨_, _, stop⟩⟩
  · exact ⟨.rune, reason, stopped, same⟩
  · exact ⟨.asset, reason, stopped, same⟩
  · cases stop

end PositionReport

end LiquidityReturns
