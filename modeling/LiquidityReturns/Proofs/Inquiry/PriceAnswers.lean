import Mathlib
import LiquidityReturns.Inquiry.Concurrent
import LiquidityReturns.Proofs.Outcome

namespace LiquidityReturns

/-!
# Answers to price questions in any order

Whatever the limit on questions under way and whatever the order of the
answers, asking for the prices of some seconds ends with the samples of these
seconds, each once, or with the failure of one of them.
-/

namespace Second

theorem mem_insertAscending
    {second inserted : Second}
    {seconds : List Second} :
    second ∈ insertAscending inserted seconds ↔
      second = inserted ∨ second ∈ seconds := by
  induction seconds with
  | nil =>
      simp [insertAscending]
  | cons first rest inductionHypothesis =>
      unfold insertAscending
      split
      · simp
      · split
        · simp only [List.mem_cons, inductionHypothesis]
          tauto
        · rename_i notEarlier notLater
          have same := eq_of_not_before notEarlier notLater
          simp [same]

theorem ascending_insertAscending
    (inserted : Second)
    {seconds : List Second}
    (ascending : seconds.Pairwise before) :
    (insertAscending inserted seconds).Pairwise before := by
  induction seconds with
  | nil =>
      simp [insertAscending]
  | cons first rest inductionHypothesis =>
      rw [List.pairwise_cons] at ascending
      unfold insertAscending
      split
      · rename_i earlier
        refine List.pairwise_cons.mpr
          ⟨?_, List.pairwise_cons.mpr ascending⟩
        intro second member
        rcases List.mem_cons.mp member with same | later
        · simpa [same] using earlier
        · exact before_trans earlier (ascending.1 second later)
      · split
        · rename_i later
          refine List.pairwise_cons.mpr
            ⟨?_, inductionHypothesis ascending.2⟩
          intro second member
          rcases mem_insertAscending.mp member with same | found
          · simpa [same] using later
          · exact ascending.1 second found
        · exact List.pairwise_cons.mpr ascending

/-- The distinct seconds of a list are its members. -/
theorem mem_distinctAscending
    {second : Second}
    {seconds : List Second} :
    second ∈ distinctAscending seconds ↔ second ∈ seconds := by
  unfold distinctAscending
  induction seconds with
  | nil =>
      simp
  | cons first rest inductionHypothesis =>
      rw [List.foldr_cons, mem_insertAscending, inductionHypothesis,
        List.mem_cons]

theorem nodup_distinctAscending (seconds : List Second) :
    (distinctAscending seconds).Nodup := by
  have ascending : (distinctAscending seconds).Pairwise before := by
    unfold distinctAscending
    induction seconds with
    | nil =>
        simp
    | cons first rest inductionHypothesis =>
        exact ascending_insertAscending first inductionHypothesis
  refine ascending.imp ?_
  rintro left right earlier rfl
  exact before_irrefl left earlier

end Second

/-- The seconds asked for are those of the actions that count. -/
theorem mem_requestedSeconds
    {pool : Asset}
    {actions : List Action}
    {second : Second} :
    second ∈ requestedSeconds pool actions ↔
      ∃ action ∈ actions,
        action.counts pool = true ∧ action.date.second = second := by
  unfold requestedSeconds
  rw [Second.mem_distinctAscending]
  simp [and_assoc]

theorem nodup_requestedSeconds (pool : Asset) (actions : List Action) :
    (requestedSeconds pool actions).Nodup :=
  Second.nodup_distinctAscending _

namespace DataSource

/-- A second that a source answers with a sample or does not know. -/
def Answers (source : DataSource) (pool : Asset) (second : Second) : Prop :=
  ∃ sample,
    contribution second (source.price pool second) = .ok sample

/-- The sample that a source contributes for a second, keyed by that second. -/
def sampleAt?
    (source : DataSource)
    (pool : Asset)
    (second : Second) :
    Option PriceSample :=
  match contribution second (source.price pool second) with
  | .ok sample =>
      sample
  | .error _ =>
      none

theorem contribution_of_answers
    {source : DataSource}
    {pool : Asset}
    {second : Second}
    (answers : source.Answers pool second) :
    contribution second (source.price pool second) =
      .ok (source.sampleAt? pool second) := by
  obtain ⟨sample, answered⟩ := answers
  simp [sampleAt?, answered]

/-- A contributed sample is keyed by the second that was asked for. -/
theorem second_of_sampleAt?
    {source : DataSource}
    {pool : Asset}
    {second : Second}
    {sample : PriceSample}
    (found : source.sampleAt? pool second = some sample) :
    sample.second = second := by
  unfold sampleAt? contribution at found
  cases answer : source.price pool second with
  | ok answered =>
      simp only [answer, Option.some.injEq] at found
      simp [← found]
  | error failure =>
      rw [answer] at found
      cases unknown : failure.isNotFound <;> simp [unknown] at found

/-- Asking one second after another gathers all samples. -/
theorem outcome_askPrices_of_answers
    {source : DataSource}
    {pool : Asset}
    {actions : List Action}
    (answers :
      ∀ second ∈ requestedSeconds pool actions,
        source.Answers pool second) :
    (source.askPrices pool actions).outcome =
      .ok ((requestedSeconds pool actions).filterMap
        (source.sampleAt? pool)) := by
  unfold askPrices
  simp only [Traced.outcome_bind, Traced.outcome_mapM, Traced.outcome_pure]
  have gathered :
      (requestedSeconds pool actions).mapM
          (fun second => (source.askPrice pool second).outcome) =
        .ok ((requestedSeconds pool actions).map
          (source.sampleAt? pool)) :=
    Outcome.mapM_eq_ok fun second member =>
      contribution_of_answers (answers second member)
  rw [gathered, Outcome.ok_bind, List.filterMap_map, Outcome.pure_eq_ok]
  rfl

end DataSource

namespace PriceQueue

variable {source : DataSource} {pool : Asset} {limit : ℕ}

/-- The seconds that still lack an answer. -/
def pending (queue : PriceQueue) : List Second :=
  queue.underway ++ queue.waiting

/-- The samples that a queue will have once all answers came. -/
def promised
    (source : DataSource)
    (pool : Asset)
    (queue : PriceQueue) :
    List PriceSample :=
  queue.samples ++ queue.pending.filterMap (source.sampleAt? pool)

/--
A step takes at most one second from those that lack an answer, which it
answers.
-/
theorem Step.pending
    {before after : PriceQueue}
    (step : Step source pool limit before after) :
    before.pending.Perm after.pending ∨
      ∃ second,
        source.Answers pool second ∧
          before.pending.Perm (second :: after.pending) := by
  cases step with
  | ask room =>
      exact .inl List.perm_middle
  | @answer second waiting earlier later samples sample answered =>
      refine .inr ⟨second, ⟨sample, answered⟩, ?_⟩
      unfold PriceQueue.pending
      rw [List.append_assoc, List.append_assoc]
      exact List.perm_middle

private theorem filterMap_cons_eq_append
    (extract : α → Option β)
    (first : α)
    (rest : List α) :
    (first :: rest).filterMap extract =
      (extract first).toList ++ rest.filterMap extract := by
  cases found : extract first <;> simp [found]

/-- A step keeps what was promised, up to order. -/
theorem Step.promised
    {before after : PriceQueue}
    (step : Step source pool limit before after) :
    (after.promised source pool).Perm (before.promised source pool) := by
  unfold PriceQueue.promised
  cases step with
  | ask room =>
      refine List.Perm.append_left _ (List.Perm.filterMap _ ?_)
      exact List.perm_middle.symm
  | @answer second waiting earlier later samples sample answered =>
      have known : source.sampleAt? pool second = sample := by
        simp [DataSource.sampleAt?, answered]
      have taken :
          (earlier ++ second :: later ++ waiting).Perm
            (second :: (earlier ++ later ++ waiting)) := by
        rw [List.append_assoc, List.append_assoc]
        exact List.perm_middle
      have sampled := taken.filterMap (source.sampleAt? pool)
      rw [filterMap_cons_eq_append, known] at sampled
      rw [List.append_assoc]
      exact sampled.symm.append_left _

/--
A queue that ends with samples ends with all that was promised, every second
being answered.
-/
theorem Ends.samples
    {queue : PriceQueue}
    {samples : List PriceSample}
    (ends : Ends source pool limit queue (.ok samples)) :
    samples.Perm (queue.promised source pool) ∧
      ∀ second ∈ queue.pending, source.Answers pool second := by
  generalize shape : Except.ok samples = outcome at ends
  induction ends with
  | done =>
      cases shape
      simp [PriceQueue.promised, PriceQueue.pending]
  | failed answered =>
      cases shape
  | step first rest inductionHypothesis =>
      obtain ⟨gathered, answered⟩ := inductionHypothesis shape
      refine ⟨gathered.trans first.promised, ?_⟩
      intro second member
      rcases first.pending with same | ⟨taken, answers, rest⟩
      · exact answered second (same.subset member)
      · rcases List.mem_cons.mp (rest.subset member) with rfl | still
        · exact answers
        · exact answered second still

/--
A queue that ends with a failure ends with that of a second that lacked an
answer.
-/
theorem Ends.failure
    {queue : PriceQueue}
    {failure : SourceError}
    (ends : Ends source pool limit queue (.error failure)) :
    ∃ second ∈ queue.pending,
      contribution second (source.price pool second) =
        .error failure := by
  generalize shape : Except.error failure = outcome at ends
  induction ends with
  | done =>
      cases shape
  | @failed second waiting earlier later samples stopped answered =>
      cases shape
      exact ⟨second, by simp [PriceQueue.pending], answered⟩
  | step first rest inductionHypothesis =>
      obtain ⟨second, member, answered⟩ := inductionHypothesis shape
      refine ⟨second, ?_, answered⟩
      rcases first.pending with same | ⟨taken, _, rest⟩
      · exact same.symm.subset member
      · exact rest.symm.subset (List.mem_cons_of_mem taken member)

/-- The first answer under way can always be taken. -/
theorem exists_ends_of_underway
    {waiting : List Second}
    (others :
      ∀ samples, ∃ outcome,
        Ends source pool limit ⟨waiting, [], samples⟩ outcome)
    (underway : List Second)
    (samples : List PriceSample) :
    ∃ outcome,
      Ends source pool limit ⟨waiting, underway, samples⟩ outcome := by
  induction underway generalizing samples with
  | nil =>
      exact others samples
  | cons second rest inductionHypothesis =>
      cases answered : contribution second (source.price pool second) with
      | error failure =>
          have failed :
              Ends source pool limit
                ⟨waiting, [] ++ second :: rest, samples⟩ (.error failure) :=
            .failed answered
          exact ⟨_, failed⟩
      | ok sample =>
          have taken :
              Step source pool limit
                ⟨waiting, [] ++ second :: rest, samples⟩
                ⟨waiting, [] ++ rest, samples ++ sample.toList⟩ :=
            .answer answered
          obtain ⟨outcome, ends⟩ :=
            inductionHypothesis (samples ++ sample.toList)
          exact ⟨outcome, .step taken ends⟩

/-- With room for one question, no order of questions and answers gets stuck. -/
theorem exists_ends
    (source : DataSource)
    (pool : Asset)
    (room : 0 < limit)
    (queue : PriceQueue) :
    ∃ outcome, Ends source pool limit queue outcome := by
  obtain ⟨waiting, underway, samples⟩ := queue
  induction waiting generalizing underway samples with
  | nil =>
      exact exists_ends_of_underway (fun _ => ⟨_, .done⟩) underway samples
  | cons second rest inductionHypothesis =>
      refine exists_ends_of_underway ?_ underway samples
      intro gathered
      obtain ⟨outcome, ends⟩ := inductionHypothesis [second] gathered
      exact ⟨outcome, .step (.ask room) ends⟩

end PriceQueue

end LiquidityReturns
