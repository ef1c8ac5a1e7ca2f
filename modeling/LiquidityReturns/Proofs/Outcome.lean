import Mathlib
import LiquidityReturns.Returns.Failure

namespace LiquidityReturns.Outcome

/-!
# Computations that may fail

A sequence of steps succeeds when every step does, and it fails with the
failure of one of its steps.  These laws open `do` blocks and folds of steps
without unfolding them.
-/

variable {ε δ α β σ : Type}

/-- A sequence of two steps succeeds when both do. -/
theorem bind_eq_ok_iff
    {first : Except ε α}
    {next : α → Except ε β}
    {result : β} :
    (first >>= next) = .ok result ↔
      ∃ value, first = .ok value ∧ next value = .ok result := by
  cases first <;> simp [bind, Except.bind]

/-- A sequence of two steps fails when either does. -/
theorem bind_eq_error_iff
    {first : Except ε α}
    {next : α → Except ε β}
    {failure : ε} :
    (first >>= next) = .error failure ↔
      first = .error failure ∨
        ∃ value, first = .ok value ∧ next value = .error failure := by
  cases first <;> simp [bind, Except.bind]

@[simp] theorem ok_bind (value : α) (next : α → Except ε β) :
    (Except.ok value >>= next) = next value :=
  rfl

@[simp] theorem error_bind (failure : ε) (next : α → Except ε β) :
    (Except.error failure >>= next) = .error failure :=
  rfl

theorem pure_eq_ok (value : α) :
    (pure value : Except ε α) = .ok value :=
  rfl

/-- A change of the result is a last step that succeeds. -/
theorem map_eq_bind (change : α → β) (first : Except ε α) :
    first.map change = first >>= pure ∘ change := by
  cases first <;> rfl

theorem map_eq_ok_iff
    {first : Except ε α}
    {change : α → β}
    {result : β} :
    first.map change = .ok result ↔
      ∃ value, first = .ok value ∧ change value = result := by
  cases first <;> simp [Except.map]

theorem map_eq_error_iff
    {first : Except ε α}
    {change : α → β}
    {failure : ε} :
    first.map change = .error failure ↔ first = .error failure := by
  cases first <;> simp [Except.map]

/-- Stating a failure in other words changes no result. -/
theorem mapError_eq_ok_iff
    {restate : ε → δ}
    {result : Except ε α}
    {value : α} :
    result.mapError restate = .ok value ↔ result = .ok value := by
  cases result <;> simp [Except.mapError]

theorem mapError_eq_error_iff
    {restate : ε → δ}
    {result : Except ε α}
    {failure : δ} :
    result.mapError restate = .error failure ↔
      ∃ reason, result = .error reason ∧ restate reason = failure := by
  cases result <;> simp [Except.mapError]

/-- A result that is not a failure is some value. -/
theorem exists_of_toOption_isSome
    {result : Except ε α}
    (succeeded : result.toOption.isSome = true) :
    ∃ value, result = .ok value := by
  cases result with
  | error failure =>
      simp [Except.toOption] at succeeded
  | ok value =>
      exact ⟨value, rfl⟩

/-- Two computations that succeed together, with results that correspond. -/
theorem toOption_eq_map
    {first : Except ε α}
    {second : Except ε β}
    {change : α → β}
    (forward : ∀ value, first = .ok value → second = .ok (change value))
    (backward :
      ∀ result, second = .ok result → ∃ value, first = .ok value) :
    second.toOption = first.toOption.map change := by
  cases first with
  | ok value =>
      rw [forward value rfl]
      rfl
  | error failure =>
      cases second with
      | ok result =>
          obtain ⟨value, succeeded⟩ := backward result rfl
          cases succeeded
      | error _ =>
          rfl

/-- Saying what is computed changes no result. -/
theorem computing_eq_ok_iff
    {description : String}
    {result : Except ArithmeticError α}
    {value : α} :
    computing description result = .ok value ↔ result = .ok value := by
  cases result <;> simp [computing, Except.mapError]

/-- Saying what is computed keeps the reason of a failure. -/
theorem computing_eq_error_iff
    {description : String}
    {result : Except ArithmeticError α}
    {failure : ComputationError} :
    computing description result = .error failure ↔
      ∃ reason,
        result = .error reason ∧
          failure = .arithmetic reason description := by
  cases result <;> simp [computing, Except.mapError, eq_comm]

/-- What is computed is said of both steps of a sequence. -/
theorem computing_bind
    (description : String)
    (first : Except ArithmeticError α)
    (next : α → Except ArithmeticError β) :
    computing description (first >>= next) =
      computing description first >>= fun value =>
        computing description (next value) := by
  cases first <;> rfl

/-- Every step of a successful run succeeds. -/
theorem exists_step_of_foldlM_ok
    {step : σ → α → Except ε σ}
    {items : List α}
    {start final : σ}
    (succeeded : items.foldlM step start = .ok final)
    {item : α}
    (member : item ∈ items) :
    ∃ before after, step before item = .ok after := by
  induction items generalizing start with
  | nil =>
      simp at member
  | cons first rest inductionHypothesis =>
      rw [List.foldlM_cons, bind_eq_ok_iff] at succeeded
      obtain ⟨middle, stepped, remaining⟩ := succeeded
      rcases List.mem_cons.mp member with same | later
      · subst item
        exact ⟨start, middle, stepped⟩
      · exact inductionHypothesis remaining later

/--
A run fails exactly when one of its items fails after the items before it.
-/
theorem foldlM_eq_error_iff
    {step : σ → α → Except ε σ}
    {items : List α}
    {start : σ}
    {failure : ε} :
    items.foldlM step start = .error failure ↔
      ∃ earlier item later before,
        items = earlier ++ item :: later ∧
          earlier.foldlM step start = .ok before ∧
          step before item = .error failure := by
  constructor
  · intro failed
    induction items generalizing start with
    | nil =>
        cases failed
    | cons first rest inductionHypothesis =>
        rw [List.foldlM_cons, bind_eq_error_iff] at failed
        rcases failed with stopped | ⟨middle, stepped, remaining⟩
        · exact ⟨[], first, rest, start, rfl, rfl, stopped⟩
        · obtain ⟨earlier, item, later, before, rfl, run, stopped⟩ :=
            inductionHypothesis remaining
          refine ⟨first :: earlier, item, later, before, rfl, ?_, stopped⟩
          rw [List.foldlM_cons, stepped, ok_bind, run]
  · rintro ⟨earlier, item, later, before, rfl, run, stopped⟩
    rw [List.foldlM_append, run, ok_bind, List.foldlM_cons, stopped,
      error_bind]

/-- A failed run fails with the failure of one of its steps. -/
theorem exists_step_of_foldlM_error
    {step : σ → α → Except ε σ}
    {items : List α}
    {start : σ}
    {failure : ε}
    (failed : items.foldlM step start = .error failure) :
    ∃ item ∈ items, ∃ before, step before item = .error failure := by
  obtain ⟨earlier, item, later, before, rfl, _, stopped⟩ :=
    foldlM_eq_error_iff.mp failed
  exact ⟨item, by simp, before, stopped⟩

/-- Items that leave every state as it is can be left out of a run. -/
theorem foldlM_filter
    {step : σ → α → Except ε σ}
    {keep : α → Bool}
    (idle :
      ∀ item, keep item = false → ∀ before, step before item = .ok before)
    (items : List α)
    (start : σ) :
    (items.filter keep).foldlM step start = items.foldlM step start := by
  induction items generalizing start with
  | nil =>
      rfl
  | cons first rest inductionHypothesis =>
      cases kept : keep first with
      | true =>
          rw [List.filter_cons_of_pos kept, List.foldlM_cons,
            List.foldlM_cons]
          exact bind_congr inductionHypothesis
      | false =>
          rw [List.filter_cons_of_neg (Bool.eq_false_iff.mp kept),
            List.foldlM_cons, idle first kept, ok_bind]
          exact inductionHypothesis start

/-- Runs of steps that agree on the items agree. -/
theorem foldlM_congr
    {left right : σ → α → Except ε σ}
    {items : List α}
    (agree :
      ∀ item ∈ items, ∀ before, left before item = right before item)
    (start : σ) :
    items.foldlM left start = items.foldlM right start := by
  induction items generalizing start with
  | nil =>
      rfl
  | cons first rest inductionHypothesis =>
      have later :
          ∀ item ∈ rest, ∀ before, left before item = right before item :=
        fun item member => agree item (List.mem_cons_of_mem first member)
      rw [List.foldlM_cons, List.foldlM_cons, agree first (by simp)]
      exact bind_congr (inductionHypothesis later)

/-- A map of steps that all succeed succeeds with their values. -/
theorem mapM_eq_ok
    {step : α → Except ε β}
    {value : α → β}
    {items : List α}
    (succeeded : ∀ item ∈ items, step item = .ok (value item)) :
    items.mapM step = .ok (items.map value) := by
  induction items with
  | nil =>
      rfl
  | cons first rest inductionHypothesis =>
      rw [List.forall_mem_cons] at succeeded
      rw [List.mapM_cons, succeeded.1, inductionHypothesis succeeded.2]
      rfl

/--
A map of steps succeeds when every step does, with the values of the steps in
order.
-/
theorem mapM_eq_ok_iff
    {step : α → Except ε β}
    {items : List α}
    {values : List β} :
    items.mapM step = .ok values ↔
      List.Forall₂ (fun item value => step item = .ok value) items
        values := by
  induction items generalizing values with
  | nil =>
      rw [List.mapM_nil, List.forall₂_nil_left_iff, pure_eq_ok,
        Except.ok.injEq, eq_comm]
  | cons first rest inductionHypothesis =>
      simp only [List.mapM_cons, bind_eq_ok_iff, pure_eq_ok,
        Except.ok.injEq, List.forall₂_cons_left_iff, inductionHypothesis]
      constructor
      · rintro ⟨value, stepped, later, remaining, rfl⟩
        exact ⟨value, later, stepped, remaining, rfl⟩
      · rintro ⟨value, later, stepped, remaining, rfl⟩
        exact ⟨value, stepped, later, remaining, rfl⟩

/-- A map of steps fails exactly when one of the steps does. -/
theorem exists_mapM_error_iff
    {step : α → Except ε β}
    {items : List α} :
    (∃ failure, items.mapM step = .error failure) ↔
      ∃ item ∈ items, ∃ failure, step item = .error failure := by
  induction items with
  | nil =>
      simp [pure, Except.pure]
  | cons first rest inductionHypothesis =>
      rw [List.mapM_cons, List.exists_mem_cons_iff, ← inductionHypothesis]
      cases step first with
      | error failure =>
          simp
      | ok value =>
          cases rest.mapM step <;> simp [pure, Except.pure]

end LiquidityReturns.Outcome
