import Mathlib
import LiquidityReturns.Proofs.Returns.StoppedRuns

namespace LiquidityReturns

/-!
# Irrelevant actions are invisible

An action says nothing about the positions in a pool when it was not settled,
when its list of pools is not that pool alone, or when it neither adds nor
withdraws.  Whatever else such an action holds, and whatever it lacks, returns
are computed as if it were not there.  A settled action without a list of pools
is not among them: whether it concerns the pool is unknown, and the computation
fails.
-/

namespace Action

/--
An action that was not settled, not in exactly the given pool, or is of a kind
without effect there.
-/
def Irrelevant (action : Action) (pool : Asset) : Prop :=
  action.status ≠ .success ∨
    (∃ pools ∈ action.pools, pools ≠ [pool]) ∨
    (action.pools = some [pool] ∧
      action.kind ≠ .addLiquidity ∧ action.kind ≠ .withdraw)

instance (action : Action) (pool : Asset) :
    Decidable (action.Irrelevant pool) :=
  inferInstanceAs (Decidable (_ ∨ _ ∨ _))

/--
The irrelevant actions are those that do not count, as far as their pools are
known.
-/
theorem irrelevant_iff {action : Action} {pool : Asset} :
    action.Irrelevant pool ↔
      action.counts pool = false ∧
        (action.isSuccess = true → action.pools.isSome = true) := by
  rw [← Bool.not_eq_true, counts_iff]
  unfold Irrelevant isSuccess
  cases action.pools with
  | none =>
      simp
  | some pools =>
      simp only [Option.mem_def, Option.some.injEq, exists_eq_left',
        Option.isSome_some, implies_true, and_true]
      tauto

end Action

/-- An irrelevant action leaves all totals as they are. -/
theorem FlowTotals.step_of_irrelevant
    {market : Market}
    {action : Action}
    (irrelevant : action.Irrelevant market.pool)
    (totals : FlowTotals) :
    totals.step market action = .ok totals := by
  obtain ⟨ignored, listed⟩ := Action.irrelevant_iff.mp irrelevant
  exact step_of_ignored ignored listed totals

/-- Without its irrelevant actions a list is accumulated in the same way. -/
theorem FlowTotals.ofActions_filter
    (market : Market)
    (actions : List Action) :
    ofActions market
        (actions.filter fun action => ¬ action.Irrelevant market.pool) =
      ofActions market actions := by
  refine Outcome.foldlM_filter ?_ actions zero
  intro action dropped totals
  exact step_of_irrelevant (by simpa using dropped) totals

/--
Returns are computed, or fail, as if the irrelevant actions were not there; but
a settled action without a list of pools, of whatever kind, makes the
computation fail.
-/
theorem computeReturns_without_irrelevant
    (position : Position)
    (state : PoolState)
    (actions : List Action)
    (prices : PriceHistory) :
    computeReturns position state
        (actions.filter fun action => ¬ action.Irrelevant position.pool)
        prices =
      computeReturns position state actions prices ∧
    ((∃ action ∈ actions,
        action.status = .success ∧ action.pools = none) →
      ∃ failure,
        computeReturns position state actions prices = .error failure) := by
  constructor
  · unfold computeReturns
    rw [← FlowTotals.ofActions_filter _ actions]
  · rintro ⟨action, member, settled, unlisted⟩
    obtain ⟨failure, stopped⟩ :=
      FlowTotals.exists_failure_of_mem member
        (FlowTotals.step_of_pools_missing
          (by simp [Action.isSuccess, settled]) unlisted)
    exact ⟨failure, computeReturns_of_failed_accumulation stopped state⟩

namespace Sample

/--
Incomplete actions: one not settled, one whose list repeats the pool, and one
of another kind.
-/
def irrelevantActions : List Action :=
  [{ unlistedAddition with status := .pending },
    { addition with pools := some [pool, pool], inputs := none },
    { withdrawal with kind := .other "swap", outputs := none }]

end Sample

/--
Three incomplete actions change nothing, and a settled one without pools makes
returns fail.
-/
theorem computeReturns_without_irrelevant_sample :
    computeReturns Sample.position Sample.state
        (Sample.addition :: Sample.irrelevantActions ++
          [Sample.withdrawal])
        Sample.market.prices =
      computeReturns Sample.position Sample.state
        [Sample.addition, Sample.withdrawal] Sample.market.prices ∧
    ∃ failure,
      computeReturns Sample.position Sample.state
          [Sample.addition, Sample.unlistedAddition] Sample.market.prices =
        .error failure := by
  constructor
  · have kept :
        (Sample.addition :: Sample.irrelevantActions ++
            [Sample.withdrawal]).filter
          (fun action => ¬ action.Irrelevant Sample.position.pool) =
        [Sample.addition, Sample.withdrawal] := by
      decide +kernel
    rw [← kept]
    exact
      (computeReturns_without_irrelevant Sample.position Sample.state _
        Sample.market.prices).1.symm
  · exact
      (computeReturns_without_irrelevant Sample.position Sample.state _
        Sample.market.prices).2
        ⟨Sample.unlistedAddition, by simp, rfl, rfl⟩

end LiquidityReturns
