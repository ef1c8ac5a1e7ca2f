import Mathlib
import LiquidityReturns.Proofs.Returns.OrderIndependence

namespace LiquidityReturns

/-!
# Where an accumulation stops

An accumulation stops at the first action that fails after those before it,
and the failure names that action.  An action that fails on its own fails in
the same way after any totals, so no order of the actions hides it.  When every
action can be processed on its own, only a running total without room for one
more net flow can stop the accumulation.
-/

/--
A failure names an action: it tells the kind and the date, and the second of a
missing price.
-/
def ComputationError.Names
    (failure : ComputationError)
    (action : Action) : Prop :=
  match failure with
  | .missingPrice kind date second _ =>
      kind = action.kind ∧ date = action.date ∧
        second.count.toInt = ⌊(action.date.count.toInt : ℚ) / 10 ^ 9⌋
  | .malformedAction kind date _ =>
      kind = action.kind ∧ date = action.date
  | .arithmetic _ computing =>
      ∃ quantity : String,
        computing =
          s!"{quantity} of {action.kind} action dated {action.date}"

/--
The second of a date is the floor of its nanoseconds over those of a second.
-/
theorem Nanoseconds.toInt_second_eq_floor (date : Nanoseconds) :
    date.second.count.toInt = ⌊(date.count.toInt : ℚ) / 10 ^ 9⌋ := by
  rw [toInt_second]
  exact (Rat.floor_intCast_div_natCast date.count.toInt (10 ^ 9)).symm

/-- Every failure of an action names it. -/
theorem ActionFailure.names
    {market : Market}
    {action : Action}
    {failure : ComputationError}
    (failed : ActionFailure market action failure) :
    failure.Names action := by
  cases failed with
  | poolsMissing | inputsMissing | outputsMissing =>
      exact ⟨rfl, rfl⟩
  | runePriceMissing | usdPriceMissing =>
      exact ⟨rfl, rfl, action.date.toInt_second_eq_floor⟩
  | zeroPrice _ _ _ _ quantity =>
      exact ⟨quantity, rfl⟩
  | overflow _ quantity =>
      exact ⟨quantity, rfl⟩

namespace FlowTotals

/--
An accumulation stops at an action: those before it end in some totals, and
it fails after these.
-/
def StopsAt
    (market : Market)
    (actions : List Action)
    (before : FlowTotals)
    (action : Action)
    (failure : ComputationError) :
    Prop :=
  ∃ earlier later,
    actions = earlier ++ action :: later ∧
      ofActions market earlier = .ok before ∧
      before.process market action = .error failure

/--
A running total has no room for the net flow of an action, and the failure says
which one.
-/
def LacksRoom
    (totals : FlowTotals)
    (market : Market)
    (action : Action)
    (failure : ComputationError) :
    Prop :=
  ∃ side net,
    action.side? market.pool = some side ∧
      action.netFlow market side = .ok net ∧
      (totals.side side).add net = .error .overflow ∧
      failure =
        .arithmetic .overflow
          s!"{side.description} of {action.kind} action dated {action.date}"

variable {market : Market} {actions : List Action} {action : Action}

/-- An accumulation fails exactly when it stops at one of its actions. -/
theorem ofActions_eq_error_iff {failure : ComputationError} :
    ofActions market actions = .error failure ↔
      ∃ before action, StopsAt market actions before action failure := by
  unfold ofActions StopsAt
  rw [Outcome.foldlM_eq_error_iff]
  constructor
  · rintro ⟨earlier, action, later, before, split, run, stopped⟩
    exact ⟨before, action, earlier, later, split, run,
      step_eq_error_iff.mp stopped⟩
  · rintro ⟨before, action, earlier, later, split, run, stopped⟩
    exact ⟨earlier, action, later, before, split, run,
      step_eq_error_iff.mpr stopped⟩

section StopsAt

variable {before : FlowTotals} {failure : ComputationError}

theorem StopsAt.mem
    (stopped : StopsAt market actions before action failure) :
    action ∈ actions := by
  obtain ⟨earlier, later, rfl, _⟩ := stopped
  simp

theorem StopsAt.failed
    (stopped : StopsAt market actions before action failure) :
    before.process market action = .error failure := by
  obtain ⟨_, _, _, _, failed⟩ := stopped
  exact failed

/-- The failure of an accumulation names the action at which it stops. -/
theorem StopsAt.names
    (stopped : StopsAt market actions before action failure) :
    failure.Names action :=
  (failure_of_step (step_eq_error_iff.mpr stopped.failed)).names

end StopsAt

/--
An action that fails after any totals makes every accumulation with it fail.
-/
theorem exists_failure_of_mem
    (member : action ∈ actions)
    {failure : ComputationError}
    (stops :
      ∀ totals : FlowTotals, totals.step market action = .error failure) :
    ∃ reached, ofActions market actions = .error reached := by
  cases run : ofActions market actions with
  | error reached =>
      exact ⟨reached, rfl⟩
  | ok totals =>
      obtain ⟨before, after, stepped⟩ :=
        Outcome.exists_step_of_foldlM_ok run member
      rw [stops before] at stepped
      cases stepped

/-- There is room for any net flow while nothing was added or withdrawn. -/
theorem absorb_zero
    (action : Action)
    (side : FlowSide)
    (net : Flow) :
    zero.absorb action side net = .ok (zero.replace side net) :=
  absorb_eq_ok_iff.mpr ⟨net, by simp, rfl⟩

/-- An action that fails on its own fails in the same way after any totals. -/
theorem step_of_fresh_failure
    {failure : ComputationError}
    (failed : zero.process market action = .error failure)
    (totals : FlowTotals) :
    totals.step market action = .error failure := by
  have stopped : zero.step market action = .error failure :=
    step_eq_error_iff.mpr failed
  cases sided : action.side? market.pool with
  | none =>
      have ignored := Action.counts_eq_false_of_side?_eq_none sided
      rw [step_of_uncounted ignored] at stopped ⊢
      split at stopped
      · rename_i unlisted
        rw [if_pos unlisted]
        exact stopped
      · cases stopped
  | some side =>
      rw [step_of_side sided, Outcome.bind_eq_error_iff] at stopped
      rcases stopped with netFailed | ⟨net, _, absorbFailed⟩
      · rw [step_of_side sided, netFailed, Outcome.error_bind]
      · rw [absorb_zero] at absorbFailed
        cases absorbFailed

/-- An action that can be processed on its own fails only for lack of room. -/
theorem lacksRoom_of_processable
    (processable : action.Processable market)
    {totals : FlowTotals}
    {failure : ComputationError}
    (failed : totals.process market action = .error failure) :
    totals.LacksRoom market action failure := by
  have stopped : totals.step market action = .error failure :=
    step_eq_error_iff.mpr failed
  cases sided : action.side? market.pool with
  | none =>
      rw [processable.step_eq_self sided] at stopped
      cases stopped
  | some side =>
      obtain ⟨net, found⟩ := processable.exists_netFlow sided
      rw [step_of_side sided, found, Outcome.ok_bind] at stopped
      refine ⟨side, net, sided, found, ?_, overflow_of_absorb stopped⟩
      obtain ⟨reason, summed, _⟩ :=
        Outcome.computing_eq_error_iff.mp
          (Outcome.map_eq_error_iff.mp stopped)
      rw [summed, Flow.eq_overflow_of_add summed]

end FlowTotals

/-- Returns are not computed from actions that cannot be accumulated. -/
theorem computeReturns_of_failed_accumulation
    {position : Position}
    {actions : List Action}
    {prices : PriceHistory}
    {failure : ComputationError}
    (failed :
      FlowTotals.ofActions
          { pool := position.pool, prices := prices } actions =
        .error failure)
    (state : PoolState) :
    computeReturns position state actions prices = .error failure := by
  unfold computeReturns
  rw [failed, Outcome.error_bind]

/--
An action that fails on its own makes every order of the actions fail; without
one, an order fails to be accumulated only where a running total has no room;
and a failed accumulation has the failure of the first action that fails after
those before it, which the failure names.
-/
theorem failing_action_stops_every_order
    (position : Position)
    (state : PoolState)
    (actions : List Action)
    (prices : PriceHistory) :
    let market : Market := { pool := position.pool, prices := prices }
    ((∃ action ∈ actions,
        ∃ failure,
          FlowTotals.zero.process market action = .error failure) →
      ∀ reordered,
        reordered.Perm actions →
          ∃ failure,
            computeReturns position state reordered prices =
              .error failure) ∧
    ((∀ action ∈ actions,
        ∃ result, FlowTotals.zero.process market action = .ok result) →
      ∀ reordered,
        reordered.Perm actions →
          (∃ totals,
            FlowTotals.ofActions market reordered = .ok totals) ∨
          ∃ before action failure,
            FlowTotals.ofActions market reordered = .error failure ∧
              FlowTotals.StopsAt market reordered before action failure ∧
              before.LacksRoom market action failure) ∧
    ∀ failure,
      FlowTotals.ofActions market actions = .error failure →
        computeReturns position state actions prices = .error failure ∧
          ∃ before action,
            FlowTotals.StopsAt market actions before action failure ∧
              failure.Names action := by
  intro market
  refine ⟨?_, ?_, ?_⟩
  · rintro ⟨action, member, failure, failed⟩ reordered reorder
    obtain ⟨reached, stopped⟩ :=
      FlowTotals.exists_failure_of_mem (reorder.symm.subset member)
        (FlowTotals.step_of_fresh_failure failed)
    exact ⟨reached, computeReturns_of_failed_accumulation stopped state⟩
  · intro processable reordered reorder
    cases run : FlowTotals.ofActions market reordered with
    | ok totals =>
        exact .inl ⟨totals, rfl⟩
    | error failure =>
        obtain ⟨before, action, stopped⟩ :=
          FlowTotals.ofActions_eq_error_iff.mp run
        have alone := processable action (reorder.subset stopped.mem)
        exact .inr ⟨before, action, failure, rfl, stopped,
          FlowTotals.lacksRoom_of_processable alone stopped.failed⟩
  · intro failure run
    obtain ⟨before, action, stopped⟩ :=
      FlowTotals.ofActions_eq_error_iff.mp run
    exact ⟨computeReturns_of_failed_accumulation run state, before, action,
      stopped, stopped.names⟩

namespace Sample

/-- The first addition in a record that lacks its list of pools. -/
def unlistedAddition : Action :=
  { addition with pools := none }

/-- Coins of the base asset whose value in dollars nearly fills a number. -/
def hugeAddition : Action :=
  (Action.inPool .addLiquidity .success ⟨1000000000⟩ pool).addInput
    (.ofCoins [⟨.rune, integral (3 * 10 ^ 25)⟩])

end Sample

/--
A record without pools fails in every order, and the second of two huge
additions lacks room.
-/
theorem failing_action_stops_every_order_sample :
    (∀ reordered,
      reordered.Perm
          [Sample.addition, Sample.unlistedAddition, Sample.withdrawal] →
        ∃ failure,
          computeReturns Sample.position Sample.state reordered
              Sample.market.prices =
            .error failure) ∧
    ∃ before action failure,
      FlowTotals.StopsAt Sample.market
          [Sample.hugeAddition, Sample.hugeAddition] before action
          failure ∧
        before.LacksRoom Sample.market action failure ∧
        failure.Names action := by
  constructor
  · refine
      (failing_action_stops_every_order Sample.position Sample.state _
        Sample.market.prices).1 ⟨Sample.unlistedAddition, by simp, ?_⟩
    exact ⟨_, rfl⟩
  · have processable :
        ∀ action ∈ [Sample.hugeAddition, Sample.hugeAddition],
          ∃ result,
            FlowTotals.zero.process Sample.market action = .ok result := by
      have alone :
          ∃ result,
            FlowTotals.zero.process Sample.market Sample.hugeAddition =
              .ok result :=
        Outcome.exists_of_toOption_isSome (by decide +kernel)
      simpa using alone
    have overflows :
        (FlowTotals.ofActions Sample.market
          [Sample.hugeAddition, Sample.hugeAddition]).toOption = none := by
      decide +kernel
    rcases
      (failing_action_stops_every_order Sample.position Sample.state _
        Sample.market.prices).2.1 processable _ (List.Perm.refl _) with
      ⟨totals, run⟩ | ⟨before, action, failure, _, stopped, full⟩
    · rw [show FlowTotals.ofActions Sample.market _ = .ok totals from run]
        at overflows
      cases overflows
    · exact ⟨before, action, failure, stopped, full, stopped.names⟩

end LiquidityReturns
