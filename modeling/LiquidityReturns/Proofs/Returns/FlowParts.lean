import Mathlib
import LiquidityReturns.Proofs.Outcome
import LiquidityReturns.Proofs.Returns.Checked
import LiquidityReturns.Returns.Flow

namespace LiquidityReturns

/-!
# The parts of a flow

A flow has five numbers: two amounts and a value in three units of account.
Sums and differences of flows both combine flows part by part, so laws of
decimal arithmetic carry over to flows through `Flow.add_eq_ok_iff` and
`Flow.sub_eq_ok_iff`.
-/

/-- A checked operation on two numbers. -/
abbrev CheckedOperation :=
  Decimal → Decimal → Except ArithmeticError Decimal

namespace Valuation

/-- A value in one unit of account. -/
def inUnit (valuation : Valuation) : Denomination → Decimal
  | .rune =>
      valuation.inRune
  | .asset =>
      valuation.inAsset
  | .usd =>
      valuation.inUsd

/-- The exact value in one unit of account. -/
def valueIn (valuation : Valuation) (unit : Denomination) : ℚ :=
  (valuation.inUnit unit).value

/-- Values that agree in every unit of account are the same. -/
theorem ext_units
    {left right : Valuation}
    (same : ∀ unit, left.inUnit unit = right.inUnit unit) :
    left = right := by
  rcases left with ⟨leftInRune, leftInAsset, leftInUsd⟩
  rcases right with ⟨rightInRune, rightInAsset, rightInUsd⟩
  have inRune : leftInRune = rightInRune := same .rune
  have inAsset : leftInAsset = rightInAsset := same .asset
  have inUsd : leftInUsd = rightInUsd := same .usd
  subst inRune inAsset inUsd
  rfl

@[simp] theorem inUnit_zero (unit : Denomination) :
    zero.inUnit unit = .zero := by
  cases unit <;> rfl

/-- Combine two values in each unit of account, in order. -/
def combine
    (operation : CheckedOperation)
    (left right : Valuation) :
    Except ArithmeticError Valuation := do
  let inRune ← operation left.inRune right.inRune
  let inAsset ← operation left.inAsset right.inAsset
  let inUsd ← operation left.inUsd right.inUsd
  return { inRune, inAsset, inUsd }

/-- A combination of values succeeds when it does in each unit of account. -/
theorem combine_eq_ok_iff
    {operation : CheckedOperation}
    {left right result : Valuation} :
    combine operation left right = .ok result ↔
      ∀ unit,
        operation (left.inUnit unit) (right.inUnit unit) =
          .ok (result.inUnit unit) := by
  unfold combine
  simp only [Outcome.bind_eq_ok_iff, Outcome.pure_eq_ok, Except.ok.injEq]
  constructor
  · rintro ⟨inRune, rune, inAsset, asset, inUsd, usd, rfl⟩ unit
    cases unit
    · exact rune
    · exact asset
    · exact usd
  · intro units
    exact ⟨result.inRune, units .rune, result.inAsset, units .asset,
      result.inUsd, units .usd, rfl⟩

/-- The value of three numbers. -/
def ofUnits (numbers : Denomination → Decimal) : Valuation where
  inRune := numbers .rune
  inAsset := numbers .asset
  inUsd := numbers .usd

@[simp] theorem inUnit_ofUnits
    (numbers : Denomination → Decimal)
    (unit : Denomination) :
    (ofUnits numbers).inUnit unit = numbers unit := by
  cases unit <;> rfl

/--
A combination exists when it does in each unit of account, and is good when it
is good there.
-/
theorem exists_combine
    {operation : CheckedOperation}
    {left right : Valuation}
    {Good : Denomination → Decimal → Prop}
    (found :
      ∀ unit,
        ∃ number,
          operation (left.inUnit unit) (right.inUnit unit) = .ok number ∧
            Good unit number) :
    ∃ result,
      combine operation left right = .ok result ∧
        ∀ unit, Good unit (result.inUnit unit) := by
  choose numbers combined good using found
  refine ⟨ofUnits numbers, ?_, ?_⟩
  · rw [combine_eq_ok_iff]
    intro unit
    rw [inUnit_ofUnits]
    exact combined unit
  · intro unit
    rw [inUnit_ofUnits]
    exact good unit

/-- A sum of values is a sum in each unit of account. -/
theorem add_eq_ok_iff {left right sum : Valuation} :
    left.add right = .ok sum ↔
      ∀ unit,
        Checked.add (left.inUnit unit) (right.inUnit unit) =
          .ok (sum.inUnit unit) :=
  combine_eq_ok_iff

/-- A difference of values is a difference in each unit of account. -/
theorem sub_eq_ok_iff {left right difference : Valuation} :
    left.sub right = .ok difference ↔
      ∀ unit,
        Checked.sub (left.inUnit unit) (right.inUnit unit) =
          .ok (difference.inUnit unit) :=
  combine_eq_ok_iff

@[simp] theorem add_zero_right (value : Valuation) :
    value.add zero = .ok value :=
  add_eq_ok_iff.mpr (by simp)

@[simp] theorem add_zero_left (value : Valuation) :
    zero.add value = .ok value :=
  add_eq_ok_iff.mpr (by simp)

/-- A combination of values that fails does so in one unit of account. -/
theorem exists_unit_of_combine_error
    (operation : CheckedOperation)
    {left right : Valuation}
    {failure : ArithmeticError}
    (failed : combine operation left right = .error failure) :
    ∃ unit,
      operation (left.inUnit unit) (right.inUnit unit) =
        .error failure := by
  unfold combine at failed
  simp only [Outcome.bind_eq_error_iff, Outcome.pure_eq_ok] at failed
  rcases failed with
    rune | ⟨_, _, asset | ⟨_, _, usd | ⟨_, _, stop⟩⟩⟩
  · exact ⟨.rune, rune⟩
  · exact ⟨.asset, asset⟩
  · exact ⟨.usd, usd⟩
  · cases stop

end Valuation

/-- One of the five numbers of a flow. -/
inductive FlowPart where
  | rune
  | asset
  | value (unit : Denomination)
  deriving DecidableEq

namespace Flow

/-- One number of a flow. -/
def part (flow : Flow) : FlowPart → Decimal
  | .rune =>
      flow.rune
  | .asset =>
      flow.asset
  | .value unit =>
      flow.value.inUnit unit

/-- Flows that agree in every part are the same. -/
theorem ext_parts
    {left right : Flow}
    (same : ∀ part, left.part part = right.part part) :
    left = right := by
  rcases left with ⟨leftRune, leftAsset, leftValue⟩
  rcases right with ⟨rightRune, rightAsset, rightValue⟩
  have rune : leftRune = rightRune := same .rune
  have asset : leftAsset = rightAsset := same .asset
  have value : leftValue = rightValue :=
    Valuation.ext_units fun unit => same (.value unit)
  subst rune asset value
  rfl

@[simp] theorem part_zero (part : FlowPart) : zero.part part = .zero := by
  rcases part with _ | _ | unit
  · rfl
  · rfl
  · exact Valuation.inUnit_zero unit

/-- The flow of five numbers. -/
def ofParts (numbers : FlowPart → Decimal) : Flow where
  rune := numbers .rune
  asset := numbers .asset
  value := {
    inRune := numbers (.value .rune)
    inAsset := numbers (.value .asset)
    inUsd := numbers (.value .usd)
  }

@[simp] theorem part_ofParts
    (numbers : FlowPart → Decimal)
    (part : FlowPart) :
    (ofParts numbers).part part = numbers part := by
  rcases part with _ | _ | unit
  · rfl
  · rfl
  · cases unit <;> rfl

/-- Combine two flows in each part, in order. -/
def combine
    (operation : CheckedOperation)
    (left right : Flow) :
    Except ArithmeticError Flow := do
  let rune ← operation left.rune right.rune
  let asset ← operation left.asset right.asset
  let value ← Valuation.combine operation left.value right.value
  return { rune, asset, value }

/-- A combination of flows succeeds when it does in each part. -/
theorem combine_eq_ok_iff
    {operation : CheckedOperation}
    {left right result : Flow} :
    combine operation left right = .ok result ↔
      ∀ part,
        operation (left.part part) (right.part part) =
          .ok (result.part part) := by
  unfold combine
  simp only [Outcome.bind_eq_ok_iff, Outcome.pure_eq_ok, Except.ok.injEq]
  constructor
  · rintro ⟨runeResult, rune, assetResult, asset, valueResult, value,
      rfl⟩ part
    rcases part with _ | _ | unit
    · exact rune
    · exact asset
    · exact Valuation.combine_eq_ok_iff.mp value unit
  · intro parts
    exact ⟨result.rune, parts .rune, result.asset, parts .asset, result.value,
      Valuation.combine_eq_ok_iff.mpr fun unit => parts (.value unit), rfl⟩

/-- A combination of flows that fails does so in one part. -/
theorem exists_part_of_combine_error
    (operation : CheckedOperation)
    {left right : Flow}
    {failure : ArithmeticError}
    (failed : combine operation left right = .error failure) :
    ∃ part,
      operation (left.part part) (right.part part) = .error failure := by
  unfold combine at failed
  simp only [Outcome.bind_eq_error_iff, Outcome.pure_eq_ok] at failed
  rcases failed with
    rune | ⟨_, _, asset | ⟨_, _, value | ⟨_, _, stop⟩⟩⟩
  · exact ⟨.rune, rune⟩
  · exact ⟨.asset, asset⟩
  · obtain ⟨unit, stopped⟩ :=
      Valuation.exists_unit_of_combine_error operation value
    exact ⟨.value unit, stopped⟩
  · cases stop

/-- A sum of flows is a sum in each part. -/
theorem add_eq_ok_iff {left right sum : Flow} :
    left.add right = .ok sum ↔
      ∀ part,
        Checked.add (left.part part) (right.part part) =
          .ok (sum.part part) :=
  combine_eq_ok_iff

/-- A difference of flows is a difference in each part. -/
theorem sub_eq_ok_iff {left right difference : Flow} :
    left.sub right = .ok difference ↔
      ∀ part,
        Checked.sub (left.part part) (right.part part) =
          .ok (difference.part part) :=
  combine_eq_ok_iff

/-- A sum of flows fails only by overflow. -/
theorem eq_overflow_of_add
    {left right : Flow}
    {failure : ArithmeticError}
    (failed : left.add right = .error failure) :
    failure = .overflow := by
  obtain ⟨part, stopped⟩ :=
    exists_part_of_combine_error Checked.add failed
  exact Checked.eq_overflow_of_orOverflow stopped

/-- A difference of flows fails only by overflow. -/
theorem eq_overflow_of_sub
    {left right : Flow}
    {failure : ArithmeticError}
    (failed : left.sub right = .error failure) :
    failure = .overflow := by
  obtain ⟨part, stopped⟩ :=
    exists_part_of_combine_error Checked.sub failed
  exact Checked.eq_overflow_of_orOverflow stopped

@[simp] theorem add_zero_right (flow : Flow) : flow.add zero = .ok flow :=
  add_eq_ok_iff.mpr (by simp)

@[simp] theorem add_zero_left (flow : Flow) : zero.add flow = .ok flow :=
  add_eq_ok_iff.mpr (by simp)

@[simp] theorem sub_zero_right (flow : Flow) : flow.sub zero = .ok flow :=
  sub_eq_ok_iff.mpr (by simp)

end Flow

end LiquidityReturns
