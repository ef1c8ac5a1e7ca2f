import Mathlib
import LiquidityReturns.Inquiry.Concurrent
import LiquidityReturns.Proofs.Outcome
import LiquidityReturns.Source.Fixture

namespace LiquidityReturns

/-!
# Pages cover a list once

The windows at the multiples of the page size below the number of actions join
to the whole list, for every positive page size.  A source that serves a fixed
list page by page therefore answers an inquiry with exactly that list, in
whatever order its pages arrive.
-/

/--
The windows at the first multiples of the page size join to the front of a
list.
-/
theorem flatMap_windows
    (items : List α)
    (limit pages : ℕ) :
    (List.range pages).flatMap
        (fun page => (items.drop (page * limit)).take limit) =
      items.take (pages * limit) := by
  induction pages with
  | zero =>
      simp
  | succ pages inductionHypothesis =>
      rw [List.range_succ, List.flatMap_append, inductionHypothesis,
        Nat.succ_mul, List.take_add]
      simp

/-- There is a page exactly when it begins below the number of actions. -/
theorem lt_pageCount_iff
    {limit : ℕ}
    (positive : 0 < limit)
    {count page : ℕ} :
    page < pageCount count limit ↔ page * limit < count := by
  unfold pageCount
  rw [if_neg positive.ne', ← Nat.succ_le_iff,
    Nat.le_div_iff_mul_le positive, Nat.succ_mul]
  omega

/-- The pages have room for all actions. -/
theorem le_pageCount_mul
    {limit : ℕ}
    (positive : 0 < limit)
    (count : ℕ) :
    count ≤ pageCount count limit * limit := by
  by_contra beyond
  have further := (lt_pageCount_iff positive).mpr (Nat.not_le.mp beyond)
  exact lt_irrefl _ further

/--
The later offsets are the multiples of the page size below the number of
actions.
-/
theorem mem_laterOffsets
    {limit : ℕ}
    (positive : 0 < limit)
    {count offset : ℕ} :
    offset ∈ laterOffsets count limit ↔
      ∃ page,
        0 < page ∧ page * limit < count ∧ page * limit = offset := by
  unfold laterOffsets
  simp only [List.mem_map, List.mem_range'_1, ← lt_pageCount_iff positive]
  constructor
  · rintro ⟨page, ⟨from_one, within⟩, rfl⟩
    exact ⟨page, by omega, by omega, rfl⟩
  · rintro ⟨page, positivePage, within, rfl⟩
    exact ⟨page, ⟨by omega, by omega⟩, rfl⟩

/-- The first window and the later ones join to the whole list. -/
theorem window_append_laterWindows
    {limit : ℕ}
    (positive : 0 < limit)
    (items : List α) :
    items.take limit ++
        (laterOffsets items.length limit).flatMap
          (fun offset => (items.drop offset).take limit) =
      items := by
  have enough := le_pageCount_mul positive items.length
  unfold laterOffsets
  cases shape : pageCount items.length limit with
  | zero =>
      rw [shape, Nat.zero_mul, Nat.le_zero, List.length_eq_zero_iff] at enough
      simp [enough]
  | succ later =>
      have windows := flatMap_windows items limit (later + 1)
      rw [List.range_eq_range', List.range'_succ, List.flatMap_cons,
        Nat.zero_mul, List.drop_zero] at windows
      rw [shape] at enough
      rw [Nat.add_sub_cancel, List.flatMap_map]
      rw [List.take_of_length_le enough] at windows
      exact windows

namespace Fixture

/-- All later pages of a fixture are answered. -/
theorem mapM_actions
    (fixture : Fixture)
    (addresses : List Address)
    (limit : ℕ)
    (offsets : List ℕ) :
    offsets.mapM (fixture.source.actions addresses limit) =
      .ok (offsets.map (fixture.page limit)) :=
  Outcome.mapM_eq_ok fun _ _ => rfl

/-- The pages of a fixture join to its actions. -/
theorem join_pages
    (fixture : Fixture)
    {limit : ℕ}
    (positive : 0 < limit) :
    (fixture.page limit 0).actions ++
        ((laterOffsets fixture.actions.length limit).map
          (fixture.page limit)).flatMap ActionsPage.actions =
      fixture.actions := by
  rw [List.flatMap_map]
  exact window_append_laterWindows positive fixture.actions

/-- Asking a fixture for all pages gives all of its actions. -/
theorem outcome_askAllActions
    (fixture : Fixture)
    (addresses : List Address)
    {limit : ℕ}
    (positive : 0 < limit) :
    (fixture.source.askAllActions addresses limit).outcome =
      .ok fixture.actions := by
  have first :
      fixture.source.actions addresses limit 0 =
        .ok (fixture.page limit 0) :=
    rfl
  have later :
      (laterOffsets (fixture.page limit 0).count limit).mapM
          (fixture.source.actions addresses limit) =
        .ok ((laterOffsets fixture.actions.length limit).map
          (fixture.page limit)) :=
    fixture.mapM_actions addresses limit _
  rw [DataSource.outcome_askAllActions, first, Outcome.ok_bind, later,
    Outcome.ok_bind, fixture.join_pages positive]
  rfl

/-- However the pages of a fixture arrive, they join to its actions. -/
theorem pagesEnd_iff
    (fixture : Fixture)
    (addresses : List Address)
    {limit : ℕ}
    (positive : 0 < limit)
    (outcome : Except SourceError (List Action)) :
    fixture.source.PagesEnd addresses limit outcome ↔
      outcome = .ok fixture.actions := by
  constructor
  · intro ended
    cases ended with
    | firstFailed failed =>
        cases failed
    | laterFailed answered asked failed =>
        cases failed
    | joined answered laterAnswered =>
        cases answered
        rw [fixture.mapM_actions] at laterAnswered
        cases laterAnswered
        exact congrArg Except.ok (fixture.join_pages positive)
  · rintro rfl
    rw [← fixture.join_pages positive]
    exact .joined rfl (fixture.mapM_actions addresses limit _)

end Fixture

end LiquidityReturns
