import LiquidityReturns.Source.Call

namespace LiquidityReturns

/-!
# Questions with a record of what was asked

An inquiry asks a source one question after another and stops at the first
failure.  Its record lists the questions in the order in which they were asked.
-/

/-- The outcome of an inquiry and the questions that it asked. -/
structure Traced (ε α : Type) where
  calls : List Call
  outcome : Except ε α

namespace Traced

/-- An outcome without a question. -/
def ofExcept (outcome : Except ε α) : Traced ε α where
  calls := []
  outcome := outcome

def ask (call : Call) (answer : Except ε α) : Traced ε α where
  calls := [call]
  outcome := answer

/-- Go on after a success. -/
def andThen
    (first : Traced ε α)
    (next : α → Traced ε β) :
    Traced ε β :=
  match first.outcome with
  | .error failure =>
      { calls := first.calls, outcome := .error failure }
  | .ok value =>
      let rest := next value
      { calls := first.calls ++ rest.calls, outcome := rest.outcome }

instance : Monad (Traced ε) where
  pure value := ofExcept (.ok value)
  bind := andThen

def mapError (restate : ε → δ) (inquiry : Traced ε α) : Traced δ α where
  calls := inquiry.calls
  outcome := inquiry.outcome.mapError restate

@[ext]
theorem ext
    {left right : Traced ε α}
    (calls : left.calls = right.calls)
    (outcome : left.outcome = right.outcome) :
    left = right := by
  cases left
  cases right
  simp_all

theorem outcome_andThen (first : Traced ε α) (next : α → Traced ε β) :
    (first.andThen next).outcome =
      first.outcome.bind fun value => (next value).outcome := by
  unfold andThen
  cases first.outcome <;> rfl

theorem andThen_ofExcept (inquiry : Traced ε α) :
    inquiry.andThen (fun value => ofExcept (.ok value)) = inquiry := by
  rcases inquiry with ⟨calls, outcome⟩
  cases outcome <;> simp [andThen, ofExcept]

theorem andThen_assoc
    (first : Traced ε α)
    (second : α → Traced ε β)
    (third : β → Traced ε γ) :
    (first.andThen second).andThen third =
      first.andThen fun value => (second value).andThen third := by
  rcases first with ⟨calls, outcome⟩
  cases outcome with
  | error failure =>
      rfl
  | ok value =>
      unfold andThen
      cases shape : (second value).outcome <;> simp [shape]

instance : LawfulMonad (Traced ε) :=
  LawfulMonad.mk' (Traced ε)
    (fun inquiry => andThen_ofExcept inquiry)
    (fun _ _ => rfl)
    (fun first second third => andThen_assoc first second third)

theorem outcome_bind (first : Traced ε α) (next : α → Traced ε β) :
    (first >>= next).outcome =
      first.outcome >>= fun value => (next value).outcome :=
  outcome_andThen first next

/-- After a success the questions of the next inquiry follow. -/
theorem calls_bind_of_ok
    {first : Traced ε α}
    {value : α}
    (succeeded : first.outcome = .ok value)
    (next : α → Traced ε β) :
    (first >>= next).calls = first.calls ++ (next value).calls := by
  change (first.andThen next).calls = _
  simp only [andThen, succeeded]

/-- After a failure nothing more is asked. -/
theorem calls_bind_of_error
    {first : Traced ε α}
    {failure : ε}
    (failed : first.outcome = .error failure)
    (next : α → Traced ε β) :
    (first >>= next).calls = first.calls := by
  change (first.andThen next).calls = _
  simp only [andThen, failed]

/-- A last step without a question changes the outcome only. -/
theorem calls_bind_ofExcept
    (first : Traced ε α)
    (finish : α → Except ε β) :
    (first >>= fun value => ofExcept (finish value)).calls =
      first.calls := by
  cases outcome : first.outcome with
  | error failure =>
      exact calls_bind_of_error outcome _
  | ok value =>
      rw [calls_bind_of_ok outcome]
      exact List.append_nil _

theorem calls_bind_pure
    (first : Traced ε α)
    (change : α → β) :
    (first >>= fun value => pure (change value)).calls = first.calls :=
  first.calls_bind_ofExcept fun value => .ok (change value)

theorem outcome_pure (value : α) :
    (pure value : Traced ε α).outcome = pure value :=
  rfl

theorem outcome_ofExcept (outcome : Except ε α) :
    (ofExcept outcome).outcome = outcome :=
  rfl

theorem outcome_ask (call : Call) (answer : Except ε α) :
    (ask call answer).outcome = answer :=
  rfl

theorem outcome_mapError (restate : ε → δ) (inquiry : Traced ε α) :
    (inquiry.mapError restate).outcome =
      inquiry.outcome.mapError restate :=
  rfl

theorem outcome_mapM (question : α → Traced ε β) (values : List α) :
    (values.mapM question).outcome =
      values.mapM fun value => (question value).outcome := by
  induction values with
  | nil =>
      rfl
  | cons value rest inductionHypothesis =>
      simp only [List.mapM_cons, outcome_bind, outcome_pure,
        inductionHypothesis]

end Traced

end LiquidityReturns
