import Mathlib
import LiquidityReturns.Proofs.Returns.ExactSums
import LiquidityReturns.Proofs.Returns.Computability

namespace LiquidityReturns

/-!
# Independence of the order of actions

Every action that counts has one net flow, whatever the totals are when it is
processed.  When the net flows of each side are exactly summable part by part,
no partial total of any order is rounded or overflows, so the totals are the
exact sums of the net flows, and every order of the actions gives the same
result.
-/

namespace Action

/-- The net flows that actions add to one side. -/
def netFlows
    (market : Market)
    (side : FlowSide)
    (actions : List Action) :
    List Flow :=
  actions.filterMap fun action =>
    if action.side? market.pool = some side then
      (action.netFlow market side).toOption
    else
      none

theorem netFlows_cons_of_side
    {market : Market}
    {side : FlowSide}
    {action : Action}
    {net : Flow}
    (sided : action.side? market.pool = some side)
    (found : action.netFlow market side = .ok net)
    (rest : List Action) :
    netFlows market side (action :: rest) =
      net :: netFlows market side rest := by
  simp [netFlows, sided, found, Except.toOption]

theorem netFlows_cons_of_other
    {market : Market}
    {side : FlowSide}
    {action : Action}
    (other : action.side? market.pool ≠ some side)
    (rest : List Action) :
    netFlows market side (action :: rest) =
      netFlows market side rest := by
  simp [netFlows, other]

/-- An action that can be processed from no totals at all. -/
def Processable (market : Market) (action : Action) : Prop :=
  ∃ result, FlowTotals.zero.process market action = .ok result

/-- A processable action that counts has a net flow. -/
theorem Processable.exists_netFlow
    {market : Market}
    {action : Action}
    {side : FlowSide}
    (processable : Processable market action)
    (sided : action.side? market.pool = some side) :
    ∃ net, action.netFlow market side = .ok net := by
  obtain ⟨result, processed⟩ := processable
  rw [FlowTotals.process_of_side sided, Outcome.bind_eq_ok_iff] at processed
  obtain ⟨net, found, _⟩ := processed
  exact ⟨net, found⟩

/-- A processable action that does not count leaves all totals as they are. -/
theorem Processable.step_eq_self
    {market : Market}
    {action : Action}
    (processable : Processable market action)
    (ignored : action.side? market.pool = none)
    (totals : FlowTotals) :
    totals.step market action = .ok totals := by
  obtain ⟨result, processed⟩ := processable
  have stepped :
      FlowTotals.zero.step market action = .ok result.2 := by
    unfold FlowTotals.step
    rw [processed]
    rfl
  exact
    FlowTotals.step_of_ignored (counts_eq_false_of_side?_eq_none ignored)
      (FlowTotals.pools_of_step stepped) totals

end Action

namespace FlowTotals

/-- The value of one part of one side of the totals. -/
def partValue
    (totals : FlowTotals)
    (side : FlowSide)
    (part : FlowPart) :
    ℚ :=
  ((totals.side side).part part).value

/-- Totals whose parts have the same values are the same. -/
theorem ext_partValues
    {left right : FlowTotals}
    (same :
      ∀ side part, left.partValue side part = right.partValue side part) :
    left = right :=
  ext_sides fun side =>
    Flow.ext_parts fun part => Decimal.value_injective (same side part)

/-- The exact values of one part of the net flows of one side. -/
def pending
    (market : Market)
    (actions : List Action)
    (side : FlowSide)
    (part : FlowPart) :
    List ℚ :=
  (Action.netFlows market side actions).map fun net => (net.part part).value

/-- An action that counts adds one pending value to its side. -/
theorem pending_cons_of_side
    {market : Market}
    {side : FlowSide}
    {action : Action}
    {net : Flow}
    (sided : action.side? market.pool = some side)
    (found : action.netFlow market side = .ok net)
    (rest : List Action)
    (part : FlowPart) :
    pending market (action :: rest) side part =
      (net.part part).value :: pending market rest side part := by
  unfold pending
  rw [Action.netFlows_cons_of_side sided found, List.map_cons]

theorem pending_cons_of_other
    {market : Market}
    {side : FlowSide}
    {action : Action}
    (other : action.side? market.pool ≠ some side)
    (rest : List Action)
    (part : FlowPart) :
    pending market (action :: rest) side part =
      pending market rest side part := by
  unfold pending
  rw [Action.netFlows_cons_of_other other]

/--
A net flow is absorbed exactly when each part of the side can add it exactly.
-/
theorem exists_absorb
    {totals : FlowTotals}
    {side : FlowSide}
    {net : Flow}
    {rest : FlowPart → List ℚ}
    (summable :
      ∀ part,
        ExactlySummable
          (totals.partValue side part :: (net.part part).value :: rest part))
    (action : Action) :
    ∃ after,
      totals.absorb action side net = .ok after ∧
        ∀ other part,
          after.partValue other part =
            totals.partValue other part +
              if other = side then (net.part part).value else 0 := by
  choose sums added values using fun part => (summable part).add_eq_ok
  have summed :
      (totals.side side).add net = .ok (Flow.ofParts sums) := by
    rw [Flow.add_eq_ok_iff]
    intro part
    rw [Flow.part_ofParts]
    exact added part
  refine ⟨totals.replace side (Flow.ofParts sums), ?_, ?_⟩
  · exact absorb_eq_ok_iff.mpr ⟨_, summed, rfl⟩
  · intro other part
    unfold partValue
    rw [side_replace]
    split
    · rename_i same
      subst same
      rw [Flow.part_ofParts]
      exact values part
    · rw [add_zero]

/--
The totals of processable actions are the exact sums of their net flows, if
these are exactly summable on top of the totals at the start.
-/
theorem exists_totals_of_summable
    {market : Market}
    {actions : List Action}
    (processable : ∀ action ∈ actions, action.Processable market)
    {start : FlowTotals}
    (summable :
      ∀ side part,
        ExactlySummable
          (start.partValue side part :: pending market actions side part)) :
    ∃ final,
      actions.foldlM (step market) start = .ok final ∧
        ∀ side part,
          final.partValue side part =
            start.partValue side part +
              (pending market actions side part).sum := by
  -- The induction carries summability on top of whatever total was reached.
  induction actions generalizing start with
  | nil =>
      refine ⟨start, rfl, ?_⟩
      intro side part
      simp [pending, Action.netFlows]
  | cons action rest inductionHypothesis =>
      have firstProcessable := processable action (by simp)
      have restProcessable : ∀ later ∈ rest, later.Processable market :=
        fun later member => processable later (by simp [member])
      cases sided : action.side? market.pool with
      | none =>
          have unchanged :
              ∀ side part,
                pending market (action :: rest) side part =
                  pending market rest side part :=
            fun side => pending_cons_of_other (by simp [sided]) rest
          simp only [unchanged] at summable ⊢
          obtain ⟨final, run, values⟩ :=
            inductionHypothesis restProcessable summable
          refine ⟨final, ?_, values⟩
          rw [List.foldlM_cons, firstProcessable.step_eq_self sided,
            Outcome.ok_bind, run]
      | some side =>
          obtain ⟨net, found⟩ := firstProcessable.exists_netFlow sided
          have onSide := pending_cons_of_side sided found rest
          have onOther :
              ∀ other part,
                other ≠ side →
                  pending market (action :: rest) other part =
                    pending market rest other part := by
            intro other part different
            refine pending_cons_of_other ?_ rest part
            rw [sided]
            exact fun same => different (Option.some.inj same).symm
          obtain ⟨middle, absorbed, middleValues⟩ :=
            exists_absorb
              (fun part => onSide part ▸ summable side part) action
          have remaining :
              ∀ other part,
                ExactlySummable
                  (middle.partValue other part ::
                    pending market rest other part) := by
            intro other part
            rw [middleValues]
            by_cases same : other = side
            · subst same
              rw [if_pos rfl]
              exact (onSide part ▸ summable other part).add_first
            · rw [if_neg same, add_zero, ← onOther other part same]
              exact summable other part
          obtain ⟨final, run, values⟩ :=
            inductionHypothesis restProcessable remaining
          refine ⟨final, ?_, ?_⟩
          · rw [List.foldlM_cons, step_of_side sided, found,
              Outcome.ok_bind, absorbed, Outcome.ok_bind, run]
          · intro other part
            rw [values, middleValues]
            by_cases same : other = side
            · subst same
              rw [if_pos rfl, onSide, List.sum_cons, add_assoc]
            · rw [if_neg same, add_zero, onOther other part same]

/-- The order of processable actions does not change exactly summable totals. -/
theorem ofActions_perm
    {market : Market}
    {actions reordered : List Action}
    (processable : ∀ action ∈ actions, action.Processable market)
    (summable :
      ∀ side part, ExactlySummable (pending market actions side part))
    (reorder : reordered.Perm actions) :
    ofActions market reordered = ofActions market actions := by
  have pendingReorder :
      ∀ side part,
        (pending market reordered side part).Perm
          (pending market actions side part) :=
    fun side part =>
      (reorder.filterMap _).map _
  have fromZero :
      ∀ terms side part,
        ExactlySummable terms →
          ExactlySummable (zero.partValue side part :: terms) := by
    intro terms side part summableTerms
    simpa [partValue] using summableTerms.cons_zero
  obtain ⟨total, run, values⟩ :=
    exists_totals_of_summable processable
      (fun side part => fromZero _ side part (summable side part))
  obtain ⟨reorderedTotal, reorderedRun, reorderedValues⟩ :=
    exists_totals_of_summable
      (fun action member => processable action (reorder.subset member))
      (fun side part =>
        fromZero _ side part
          ((summable side part).of_perm (pendingReorder side part)))
  have same : reorderedTotal = total :=
    ext_partValues fun side part => by
      rw [reorderedValues, values, (pendingReorder side part).sum_eq]
  unfold ofActions
  rw [run, reorderedRun, same]

end FlowTotals

/--
Every action that counts has one net flow, whatever the totals, and when the
net flows are exactly summable every order of the actions gives the same
summary or the same failure.
-/
theorem computeReturns_of_reordered
    {position : Position}
    {prices : PriceHistory}
    {actions reordered : List Action}
    (processable :
      ∀ action ∈ actions,
        action.Processable { pool := position.pool, prices := prices })
    (summable :
      ∀ side part,
        ExactlySummable
          (FlowTotals.pending { pool := position.pool, prices := prices }
            actions side part))
    (reorder : reordered.Perm actions)
    (state : PoolState) :
    (∀ action ∈ actions,
      ∀ side,
        action.side? position.pool = some side →
          ∃ net,
            action.netFlow { pool := position.pool, prices := prices } side =
              .ok net ∧
            ∀ totals : FlowTotals,
              totals.step { pool := position.pool, prices := prices } action =
                totals.absorb action side net) ∧
    computeReturns position state reordered prices =
      computeReturns position state actions prices := by
  constructor
  · intro action member side sided
    obtain ⟨net, found⟩ := (processable action member).exists_netFlow sided
    refine ⟨net, found, fun totals => ?_⟩
    rw [FlowTotals.step_of_side sided, found, Outcome.ok_bind]
  · unfold computeReturns
    rw [FlowTotals.ofActions_perm processable summable reorder]

/-- Two additions and a withdrawal in another order have the same returns. -/
theorem computeReturns_of_reordered_sample :
    [Sample.laterAddition, Sample.withdrawal, Sample.addition].Perm
      [Sample.addition, Sample.withdrawal, Sample.laterAddition] ∧
    computeReturns Sample.position Sample.state
        [Sample.laterAddition, Sample.withdrawal, Sample.addition]
        Sample.market.prices =
      computeReturns Sample.position Sample.state
        [Sample.addition, Sample.withdrawal, Sample.laterAddition]
        Sample.market.prices := by
  have reorder :
      [Sample.laterAddition, Sample.withdrawal, Sample.addition].Perm
        [Sample.addition, Sample.withdrawal, Sample.laterAddition] := by
    decide +kernel
  have processable :
      ∀ action ∈ [Sample.addition, Sample.withdrawal, Sample.laterAddition],
        action.Processable Sample.market := by
    simp only [List.forall_mem_cons]
    refine ⟨?_, ?_, ?_, by simp⟩ <;>
      exact Outcome.exists_of_toOption_isSome (by decide +kernel)
  have summable :
      ∀ side part,
        ExactlySummable
          (FlowTotals.pending Sample.market
            [Sample.addition, Sample.withdrawal, Sample.laterAddition]
            side part) := by
    intro side part
    refine ExactlySummable.of_integral ?_ ?_ <;>
      rcases side with _ | _ <;> rcases part with _ | _ | _ | _ | _ <;>
        decide +kernel
  exact ⟨reorder,
    (computeReturns_of_reordered processable summable reorder
      Sample.state).2⟩

end LiquidityReturns
