import Mathlib
import LiquidityReturns.Proofs.Returns.Computability
import LiquidityReturns.Returns.Accumulator

namespace LiquidityReturns

/-!
# Failed and skipped actions leave no trace

A call on an accumulator does what processing the action does to totals, and
a failure comes before the totals are touched.  Calls that fail or skip their
action can therefore be left out of a run: the others find and leave the same
totals without them.
-/

namespace ActionOutcome

/-- The side of the totals that an outcome says was added to. -/
def side? : ActionOutcome → Option FlowSide
  | .added =>
      some .added
  | .withdrawn =>
      some .withdrawn
  | .notSuccessful | .otherPools | .unsupportedKind =>
      none

@[simp] theorem side?_outcome (side : FlowSide) :
    side.outcome.side? = some side := by
  cases side <;> rfl

/-- Only the outcome of a side names that side. -/
theorem eq_outcome_of_side?
    {outcome : ActionOutcome}
    {side : FlowSide}
    (named : outcome.side? = some side) :
    outcome = side.outcome := by
  cases outcome <;> cases named <;> rfl

end ActionOutcome

namespace FlowTotals

/--
Totals after an action differ from those before it in the side that its outcome
names.
-/
theorem eq_of_process
    {market : Market}
    {totals after : FlowTotals}
    {action : Action}
    {outcome : ActionOutcome}
    (processed : totals.process market action = .ok (outcome, after)) :
    after =
      match outcome.side? with
      | some side =>
          totals.replace side (after.side side)
      | none =>
          totals := by
  cases counted : action.side? market.pool with
  | some side =>
      rw [process_of_side counted] at processed
      obtain ⟨net, _, absorbed⟩ := Outcome.bind_eq_ok_iff.mp processed
      obtain ⟨_, absorbed, finished⟩ := Outcome.bind_eq_ok_iff.mp absorbed
      obtain ⟨sum, _, rfl⟩ := absorb_eq_ok_iff.mp absorbed
      cases finished
      simp
  | none =>
      have ignored := Action.counts_eq_false_of_side?_eq_none counted
      rw [process_of_uncounted ignored] at processed
      split at processed
      · split at processed <;> cases processed <;> rfl
      · cases processed
        rfl

end FlowTotals

namespace AccumulatorCall

/-- The side of the totals that a call answers to have added to. -/
def side? (call : AccumulatorCall) : Option FlowSide :=
  match call.answer with
  | .ok outcome =>
      outcome.side?
  | .error _ =>
      none

/-- Whether a call answers to have added to the totals. -/
def counted (call : AccumulatorCall) : Bool :=
  call.side?.isSome

/--
A call changes at most the side of the totals that it answers to have added to.
-/
def Confined (call : AccumulatorCall) : Prop :=
  call.after =
    match call.side? with
    | some side =>
        call.before.replace side (call.after.side side)
    | none =>
        call.before

/-- A call counts when it answers with the outcome of one of the sides. -/
theorem answer_of_counted
    (call : AccumulatorCall)
    (counts : call.counted = true) :
    ∃ side : FlowSide, call.answer = .ok side.outcome := by
  obtain ⟨side, named⟩ := Option.isSome_iff_exists.mp counts
  unfold side? at named
  cases answered : call.answer with
  | error failure =>
      simp [answered] at named
  | ok outcome =>
      rw [answered] at named
      exact ⟨side, by rw [ActionOutcome.eq_outcome_of_side? named]⟩

/-- A call that does not count leaves the totals as they were. -/
theorem Confined.after_eq_before
    {call : AccumulatorCall}
    (confined : call.Confined)
    (skipped : call.counted = false) :
    call.after = call.before := by
  unfold Confined at confined
  have unsided :=
    Option.isNone_iff_eq_none.mp (Option.isSome_eq_false_iff.mp skipped)
  rw [unsided] at confined
  exact confined

end AccumulatorCall

namespace Accumulator

/--
The second step starts from the totals of the first, if the first succeeds.
-/
theorem run_bind
    (totals : FlowTotals)
    (first : Accumulating α)
    (next : α → Accumulating β) :
    (first >>= next).run.run totals =
      match first.run.run totals with
      | (.ok value, after) =>
          (next value).run.run after
      | (.error failure, after) =>
          (.error failure, after) := by
  rw [ExceptT.run_bind, StateT.run_bind]
  rcases first.run.run totals with ⟨answer, after⟩
  cases answer <;> rfl

@[simp] theorem run_settle
    (totals : FlowTotals)
    (result : Except ComputationError α) :
    (settle result).run.run totals = (result, totals) :=
  rfl

@[simp] theorem run_get (totals : FlowTotals) :
    (get : Accumulating FlowTotals).run.run totals = (.ok totals, totals) :=
  rfl

/--
What a computation on given totals leaves: those that it computed, or the given
ones.
-/
def leave
    (totals : FlowTotals)
    (result : Except ComputationError (α × FlowTotals)) :
    Except ComputationError α × FlowTotals :=
  match result with
  | .ok (value, after) =>
      (.ok value, after)
  | .error failure =>
      (.error failure, totals)

/-- An addition leaves the totals with its net flow. -/
theorem run_absorbAddition
    (totals : FlowTotals)
    (action : Action)
    (inflow outflow : Flow) :
    (absorbAddition action inflow outflow).run.run totals =
      leave totals
        ((totals.addAddition action inflow outflow).map ((), ·)) := by
  unfold absorbAddition FlowTotals.addAddition
  simp only [run_bind, run_get, run_settle]
  cases computing _ _ <;> rfl

/-- A withdrawal leaves the totals with its net flow. -/
theorem run_absorbWithdrawal
    (totals : FlowTotals)
    (action : Action)
    (inflow outflow : Flow) :
    (absorbWithdrawal action inflow outflow).run.run totals =
      leave totals
        ((totals.addWithdrawal action inflow outflow).map ((), ·)) := by
  unfold absorbWithdrawal FlowTotals.addWithdrawal
  simp only [run_bind, run_get, run_settle]
  cases computing _ _ <;> rfl

/--
A call on an action settled in its pool leaves what processing the action
gives.
-/
theorem run_callCounted
    (market : Market)
    (totals : FlowTotals)
    (action : Action) :
    (callCounted market action).run.run totals =
      leave totals (totals.processCounted market action) := by
  unfold callCounted FlowTotals.processCounted
  cases action.kind with
  | other name =>
      rfl
  | addLiquidity =>
      dsimp only
      rw [run_bind, run_settle]
      cases action.flows market with
      | error failure =>
          rfl
      | ok flows =>
          rw [Outcome.ok_bind]
          dsimp only
          rw [run_bind, run_absorbAddition]
          cases totals.addAddition action flows.1 flows.2 <;> rfl
  | withdraw =>
      dsimp only
      rw [run_bind, run_settle]
      cases action.flows market with
      | error failure =>
          rfl
      | ok flows =>
          rw [Outcome.ok_bind]
          dsimp only
          rw [run_bind, run_absorbWithdrawal]
          cases totals.addWithdrawal action flows.1 flows.2 <;> rfl

/-- A call leaves what processing its action gives, or the totals it found. -/
theorem run_call
    (market : Market)
    (totals : FlowTotals)
    (action : Action) :
    (call market action).run.run totals =
      leave totals (totals.process market action) := by
  unfold call FlowTotals.process
  cases action.isSuccess with
  | false =>
      rfl
  | true =>
      cases action.touchesOnly? market.pool with
      | none =>
          rfl
      | some only =>
          cases only with
          | false =>
              rfl
          | true =>
              exact run_callCounted market totals action

/-- The record of a call, and the totals that it leaves. -/
theorem run_recordCall
    (market : Market)
    (totals : FlowTotals)
    (action : Action) :
    (recordCall market action).run totals =
      let left := leave totals (totals.process market action)
      ({ action, before := totals, answer := left.1, after := left.2 },
        left.2) := by
  rw [← run_call]
  rfl

/--
One call changes at most the side of the totals that it answers to have added
to.
-/
theorem confined_recordCall
    (market : Market)
    (totals : FlowTotals)
    (action : Action) :
    ((recordCall market action).run totals).1.Confined := by
  rw [run_recordCall]
  cases processed : totals.process market action with
  | error failure =>
      rfl
  | ok result =>
      exact FlowTotals.eq_of_process processed

/--
A run makes its first call, and the other calls on the totals that it leaves.
-/
theorem run_callAll_cons
    (market : Market)
    (totals : FlowTotals)
    (action : Action)
    (rest : List Action) :
    (callAll market (action :: rest)).run totals =
      let first := (recordCall market action).run totals
      let later := (callAll market rest).run first.2
      (first.1 :: later.1, later.2) := by
  unfold callAll
  rw [List.mapM_cons]
  rfl

/-- The calls of a run are made with its actions in order. -/
theorem actions_callAll
    (market : Market)
    (totals : FlowTotals)
    (actions : List Action) :
    ((callAll market actions).run totals).1.map AccumulatorCall.action =
      actions := by
  induction actions generalizing totals with
  | nil =>
      rfl
  | cons action rest inductionHypothesis =>
      rw [run_callAll_cons]
      exact congrArg (List.cons action) (inductionHypothesis _)

/--
Every call of a run changes at most the side that it answers to have added to.
-/
theorem confined_callAll
    (market : Market)
    (totals : FlowTotals)
    (actions : List Action) :
    ∀ call ∈ ((callAll market actions).run totals).1, call.Confined := by
  induction actions generalizing totals with
  | nil =>
      intro call member
      cases member
  | cons action rest inductionHypothesis =>
      rw [run_callAll_cons]
      intro call member
      rcases List.mem_cons.mp member with rfl | later
      · exact confined_recordCall market totals action
      · exact inductionHypothesis _ call later

/--
The calls that count are made in the same way when the others are left out.
-/
theorem callAll_counted
    (market : Market)
    (totals : FlowTotals)
    (actions : List Action) :
    let run := (callAll market actions).run totals
    let counted := run.1.filter AccumulatorCall.counted
    (callAll market (counted.map AccumulatorCall.action)).run totals =
      (counted, run.2) := by
  induction actions generalizing totals with
  | nil =>
      rfl
  | cons action rest inductionHypothesis =>
      rw [run_callAll_cons]
      dsimp only
      cases counts :
        ((recordCall market action).run totals).1.counted with
      | false =>
          -- Such a call leaves the totals to the rest of the run as they are.
          have unchanged : ((recordCall market action).run totals).2 = totals :=
            (confined_recordCall market totals action).after_eq_before counts
          rw [List.filter_cons_of_neg (Bool.eq_false_iff.mp counts), unchanged]
          exact inductionHypothesis totals
      | true =>
          rw [List.filter_cons_of_pos counts, List.map_cons]
          change (callAll market (action :: _)).run totals = _
          rw [run_callAll_cons]
          dsimp only
          rw [inductionHypothesis]

end Accumulator

open Accumulator

/--
Calls that fail or skip their action leave no trace on an accumulator.

Each call changes at most the side of the totals that it answers to have added
to.  The calls that count are made again, with the same answers and the same
totals, by a run over their actions alone.
-/
theorem uncounted_calls_leave_no_trace
    (market : Market)
    (start : FlowTotals)
    (actions : List Action) :
    let run := (callAll market actions).run start
    let counted := run.1.filter AccumulatorCall.counted
    run.1.map AccumulatorCall.action = actions ∧
      (∀ call ∈ run.1, call.Confined) ∧
      (∀ call ∈ counted,
        ∃ side : FlowSide, call.answer = .ok side.outcome) ∧
      (callAll market (counted.map AccumulatorCall.action)).run start =
        (counted, run.2) := by
  intro run counted
  refine ⟨actions_callAll market start actions,
    confined_callAll market start actions, ?_,
    callAll_counted market start actions⟩
  intro call member
  exact call.answer_of_counted (List.mem_filter.mp member).2

namespace Sample

/-- The first addition again, in a second without prices. -/
def unpricedAddition : Action :=
  { addition with date := ⟨9000000000⟩ }

/-- The later addition, not settled yet. -/
def pendingAddition : Action :=
  { laterAddition with status := .pending }

end Sample

/--
A run with a call that fails and one that skips its action is a run of the
other two calls.
-/
theorem uncounted_calls_leave_no_trace_sample :
    let run :=
      (callAll Sample.market
        [Sample.addition, Sample.unpricedAddition, Sample.pendingAddition,
          Sample.withdrawal]).run .zero
    run.1.map AccumulatorCall.side? =
        [some .added, none, none, some .withdrawn] ∧
      (callAll Sample.market [Sample.addition, Sample.withdrawal]).run .zero =
        (run.1.filter AccumulatorCall.counted, run.2) := by
  intro run
  have sides :
      run.1.map AccumulatorCall.side? =
        [some .added, none, none, some .withdrawn] := by
    decide +kernel
  have kept :
      (run.1.filter AccumulatorCall.counted).map AccumulatorCall.action =
        [Sample.addition, Sample.withdrawal] := by
    decide +kernel
  have traceless :=
    (uncounted_calls_leave_no_trace Sample.market .zero
      [Sample.addition, Sample.unpricedAddition, Sample.pendingAddition,
        Sample.withdrawal]).2.2.2
  refine ⟨sides, ?_⟩
  rw [← kept]
  exact traceless

end LiquidityReturns
