import Mathlib
import LiquidityReturns.Proofs.Returns.FlowParts
import LiquidityReturns.Returns.Accumulation

namespace LiquidityReturns

/-!
# What one action does to the totals

An action that counts has a net flow, which depends on the market alone, and
adds it to one side of the totals.  Every other action leaves the totals as
they are, unless it was settled without a list of pools.  The two laws
`FlowTotals.step_of_side` and `FlowTotals.step_of_uncounted` cover every
action.
-/

/-- One of the two totals that actions add to. -/
inductive FlowSide where
  | added
  | withdrawn
  deriving DecidableEq

namespace FlowSide

/-- A side of the totals in the wording of errors. -/
def description : FlowSide → String
  | .added =>
      "added totals"
  | .withdrawn =>
      "withdrawn totals"

/-- What an action of a side did to the totals. -/
def outcome : FlowSide → ActionOutcome
  | .added =>
      .added
  | .withdrawn =>
      .withdrawn

/-- The net flow in the direction of a side. -/
def net
    (side : FlowSide)
    (inflow outflow : Flow) :
    Except ArithmeticError Flow :=
  match side with
  | .added =>
      inflow.sub outflow
  | .withdrawn =>
      outflow.sub inflow

/-- A net flow fails only by overflow. -/
theorem eq_overflow_of_net
    {side : FlowSide}
    {inflow outflow : Flow}
    {failure : ArithmeticError}
    (failed : side.net inflow outflow = .error failure) :
    failure = .overflow := by
  cases side
  · exact Flow.eq_overflow_of_sub failed
  · exact Flow.eq_overflow_of_sub failed

end FlowSide

namespace ActionKind

/-- The side of the totals that actions of a kind add to. -/
def side? : ActionKind → Option FlowSide
  | .addLiquidity =>
      some .added
  | .withdraw =>
      some .withdrawn
  | .other _ =>
      none

end ActionKind

namespace Action

/-- The side of the totals that an action adds to, if it counts. -/
def side? (action : Action) (pool : Asset) : Option FlowSide :=
  if action.counts pool then action.kind.side? else none

/-- The net flow of an action in the direction of a side. -/
def netFlow
    (action : Action)
    (market : Market)
    (side : FlowSide) :
    Except ComputationError Flow := do
  let (inflow, outflow) ← action.flows market
  computing (action.describe side.description) (side.net inflow outflow)

/-- What it takes for an action to count. -/
theorem counts_iff (action : Action) (pool : Asset) :
    action.counts pool = true ↔
      action.status = .success ∧ action.pools = some [pool] ∧
        (action.kind = .addLiquidity ∨ action.kind = .withdraw) := by
  unfold counts isSuccess touchesOnly? changesPositions
  cases action.kind <;> cases action.pools <;> simp

/-- The side of an action is that of its kind, provided that it counts. -/
theorem side?_eq_some_iff
    {action : Action}
    {pool : Asset}
    {side : FlowSide} :
    action.side? pool = some side ↔
      action.counts pool = true ∧ action.kind.side? = some side := by
  unfold side?
  split <;> simp_all

/-- An action that counts has a side. -/
theorem exists_side_of_counts
    {action : Action}
    {pool : Asset}
    (counted : action.counts pool = true) :
    ∃ side, action.side? pool = some side := by
  have kinds := ((counts_iff action pool).mp counted).2.2
  unfold side?
  rw [if_pos counted]
  rcases kinds with add | withdraw
  · exact ⟨.added, by rw [add]; rfl⟩
  · exact ⟨.withdrawn, by rw [withdraw]; rfl⟩

/-- An action without a side does not count. -/
theorem counts_eq_false_of_side?_eq_none
    {action : Action}
    {pool : Asset}
    (ignored : action.side? pool = none) :
    action.counts pool = false := by
  by_contra counted
  obtain ⟨side, found⟩ :=
    exists_side_of_counts (Bool.not_eq_false _ ▸ counted)
  simp [ignored] at found

end Action

namespace FlowTotals

/-- One side of the totals. -/
def side (totals : FlowTotals) : FlowSide → Flow
  | .added =>
      totals.added
  | .withdrawn =>
      totals.withdrawn

/-- The totals with one side replaced. -/
def replace
    (totals : FlowTotals)
    (side : FlowSide)
    (flow : Flow) :
    FlowTotals :=
  match side with
  | .added =>
      { totals with added := flow }
  | .withdrawn =>
      { totals with withdrawn := flow }

/-- Add the net flow of an action to one side of the totals. -/
def absorb
    (totals : FlowTotals)
    (action : Action)
    (side : FlowSide)
    (net : Flow) :
    Except ComputationError FlowTotals :=
  (computing (action.describe side.description)
    ((totals.side side).add net)).map (totals.replace side)

@[simp] theorem side_replace
    (totals : FlowTotals)
    (replaced side : FlowSide)
    (flow : Flow) :
    (totals.replace replaced flow).side side =
      if side = replaced then flow else totals.side side := by
  cases replaced <;> cases side <;> rfl

@[simp] theorem side_zero (side : FlowSide) : zero.side side = .zero := by
  cases side <;> rfl

/-- Totals that agree on both sides are the same. -/
theorem ext_sides
    {left right : FlowTotals}
    (same : ∀ side, left.side side = right.side side) :
    left = right := by
  rcases left with ⟨leftAdded, leftWithdrawn⟩
  rcases right with ⟨rightAdded, rightWithdrawn⟩
  have added : leftAdded = rightAdded := same .added
  have withdrawn : leftWithdrawn = rightWithdrawn := same .withdrawn
  subst added withdrawn
  rfl

/-- A side replaced by itself changes nothing. -/
@[simp] theorem replace_side (totals : FlowTotals) (side : FlowSide) :
    totals.replace side (totals.side side) = totals := by
  cases side <;> rfl

/--
Totals that absorb a net flow have its sum with one side, and the same other
side.
-/
theorem absorb_eq_ok_iff
    {totals after : FlowTotals}
    {action : Action}
    {side : FlowSide}
    {net : Flow} :
    totals.absorb action side net = .ok after ↔
      ∃ sum,
        (totals.side side).add net = .ok sum ∧
          totals.replace side sum = after := by
  unfold absorb
  simp only [Outcome.map_eq_ok_iff, Outcome.computing_eq_ok_iff]

/-- An addition adds its net flow to the added side. -/
theorem addAddition_eq
    (totals : FlowTotals)
    (action : Action)
    (inflow outflow : Flow) :
    totals.addAddition action inflow outflow =
      computing (action.describe FlowSide.added.description)
          (FlowSide.added.net inflow outflow) >>=
        totals.absorb action .added := by
  unfold addAddition
  rw [Outcome.computing_bind, bind_assoc]
  refine bind_congr fun net => ?_
  exact (Outcome.map_eq_bind ..).symm

/-- A withdrawal adds its net flow to the withdrawn side. -/
theorem addWithdrawal_eq
    (totals : FlowTotals)
    (action : Action)
    (inflow outflow : Flow) :
    totals.addWithdrawal action inflow outflow =
      computing (action.describe FlowSide.withdrawn.description)
          (FlowSide.withdrawn.net inflow outflow) >>=
        totals.absorb action .withdrawn := by
  unfold addWithdrawal
  rw [Outcome.computing_bind, bind_assoc]
  refine bind_congr fun net => ?_
  exact (Outcome.map_eq_bind ..).symm

/-- An action that counts adds its net flow to its side of the totals. -/
theorem process_of_side
    {market : Market}
    {action : Action}
    {side : FlowSide}
    (counted : action.side? market.pool = some side)
    (totals : FlowTotals) :
    totals.process market action = do
      let net ← action.netFlow market side
      let after ← totals.absorb action side net
      return (side.outcome, after) := by
  obtain ⟨counts, kind⟩ := Action.side?_eq_some_iff.mp counted
  obtain ⟨success, pools, kinds⟩ := (Action.counts_iff ..).mp counts
  have settled : action.isSuccess = true := by
    simp [Action.isSuccess, success]
  have touches : action.touchesOnly? market.pool = some true := by
    simp [Action.touchesOnly?, pools]
  unfold process
  simp only [settled, touches, if_true]
  unfold processCounted Action.netFlow
  rcases kinds with add | withdraw
  · rw [add] at kind
    cases kind
    simp only [add, addAddition_eq, bind_assoc]
    rfl
  · rw [withdraw] at kind
    cases kind
    simp only [withdraw, addWithdrawal_eq, bind_assoc]
    rfl

/-- An action fails when processing it does. -/
theorem step_eq_error_iff
    {market : Market}
    {totals : FlowTotals}
    {action : Action}
    {failure : ComputationError} :
    totals.step market action = .error failure ↔
      totals.process market action = .error failure :=
  Outcome.map_eq_error_iff

/-- The totals after an action that counts. -/
theorem step_of_side
    {market : Market}
    {action : Action}
    {side : FlowSide}
    (counted : action.side? market.pool = some side)
    (totals : FlowTotals) :
    totals.step market action =
      action.netFlow market side >>= totals.absorb action side := by
  unfold step
  rw [process_of_side counted, Outcome.map_eq_bind]
  simp only [bind_assoc, pure_bind, Function.comp, bind_pure]

/--
An action that does not count is skipped, for its status, its pools or its
kind.
-/
theorem process_of_uncounted
    {market : Market}
    {action : Action}
    (ignored : action.counts market.pool = false)
    (totals : FlowTotals) :
    totals.process market action =
      if action.isSuccess then
        match action.touchesOnly? market.pool with
        | none =>
            .error (.malformedAction action.kind action.date .pools)
        | some false =>
            .ok (.otherPools, totals)
        | some true =>
            .ok (.unsupportedKind, totals)
      else
        .ok (.notSuccessful, totals) := by
  unfold process
  cases settled : action.isSuccess with
  | false =>
      rfl
  | true =>
      cases touches : action.touchesOnly? market.pool with
      | none =>
          rfl
      | some only =>
          cases only with
          | false =>
              rfl
          | true =>
              have unsupported : action.changesPositions = false := by
                simpa [Action.counts, settled, touches] using ignored
              unfold Action.changesPositions at unsupported
              unfold processCounted
              cases kind : action.kind with
              | addLiquidity =>
                  simp [kind] at unsupported
              | withdraw =>
                  simp [kind] at unsupported
              | other name =>
                  rfl

/--
An action that does not count leaves the totals as they are, if a list of pools
shows it.
-/
theorem step_of_ignored
    {market : Market}
    {action : Action}
    (ignored : action.counts market.pool = false)
    (shown : action.isSuccess = true → action.pools.isSome = true)
    (totals : FlowTotals) :
    totals.step market action = .ok totals := by
  unfold step
  rw [process_of_uncounted ignored]
  cases settled : action.isSuccess with
  | false =>
      rfl
  | true =>
      obtain ⟨pools, present⟩ := Option.isSome_iff_exists.mp (shown settled)
      unfold Action.touchesOnly?
      rw [present, Option.map_some]
      cases decide (pools = [market.pool]) <;> rfl

/-- A settled action without a list of pools is malformed. -/
theorem step_of_pools_missing
    {market : Market}
    {action : Action}
    (settled : action.isSuccess = true)
    (missing : action.pools = none)
    (totals : FlowTotals) :
    totals.step market action =
      .error (.malformedAction action.kind action.date .pools) := by
  simp [step, process, settled, Action.touchesOnly?, missing, Except.map]

/--
An action that does not count is skipped, unless it was settled without a list
of pools.
-/
theorem step_of_uncounted
    {market : Market}
    {action : Action}
    (ignored : action.counts market.pool = false)
    (totals : FlowTotals) :
    totals.step market action =
      if action.isSuccess = true ∧ action.pools = none then
        .error (.malformedAction action.kind action.date .pools)
      else
        .ok totals := by
  split
  · rename_i unlisted
    exact step_of_pools_missing unlisted.1 unlisted.2 totals
  · rename_i listed
    refine step_of_ignored ignored ?_ totals
    intro settled
    refine Option.isSome_iff_ne_none.mpr ?_
    intro missing
    exact listed ⟨settled, missing⟩

end FlowTotals

end LiquidityReturns
