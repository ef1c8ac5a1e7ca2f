import LiquidityReturns.Inquiry.Concurrent

namespace LiquidityReturns

/-!
# What is asked while several questions are under way

A run goes through the same steps as an inquiry with several questions under
way, and keeps what was asked for in the order of the questions.  A failure
ends a run at once: what is still waiting then is never asked for.
-/

namespace PriceQueue

/--
A run from a queue: the seconds that it asks for from there on, and how it
ends.
-/
inductive Run (source : DataSource) (pool : Asset) (limit : Nat) :
    PriceQueue → List Second →
      Except SourceError (List PriceSample) → Prop where
  | done {samples : List PriceSample} :
      Run source pool limit ⟨[], [], samples⟩ [] (.ok samples)
  | failed
      {second : Second}
      {waiting earlier later : List Second}
      {samples : List PriceSample}
      {failure : SourceError}
      (answered :
        contribution second (source.price pool second) = .error failure) :
      Run source pool limit
        ⟨waiting, earlier ++ second :: later, samples⟩ [] (.error failure)
  | ask
      {second : Second}
      {waiting underway asked : List Second}
      {samples : List PriceSample}
      {outcome : Except SourceError (List PriceSample)}
      (room : underway.length < limit)
      (rest :
        Run source pool limit
          ⟨waiting, second :: underway, samples⟩ asked outcome) :
      Run source pool limit
        ⟨second :: waiting, underway, samples⟩ (second :: asked) outcome
  | answer
      {second : Second}
      {waiting earlier later asked : List Second}
      {samples : List PriceSample}
      {sample : Option PriceSample}
      {outcome : Except SourceError (List PriceSample)}
      (answered :
        contribution second (source.price pool second) = .ok sample)
      (rest :
        Run source pool limit
          ⟨waiting, earlier ++ later, samples ++ sample.toList⟩
          asked outcome) :
      Run source pool limit
        ⟨waiting, earlier ++ second :: later, samples⟩ asked outcome

end PriceQueue

namespace DataSource

/--
A run of questions for all pages: the offsets that it asks for, and how it
ends.  The first page tells which others there are; when one of these fails,
some of them may not have been asked for.
-/
inductive PagesRun
    (source : DataSource)
    (addresses : List Address)
    (limit : Nat) :
    List Nat → Except SourceError (List Action) → Prop where
  | firstFailed
      {failure : SourceError}
      (failed : source.actions addresses limit 0 = .error failure) :
      PagesRun source addresses limit [0] (.error failure)
  | laterFailed
      {first : ActionsPage}
      {asked : List Nat}
      {offset : Nat}
      {failure : SourceError}
      (answered : source.actions addresses limit 0 = .ok first)
      (begun : asked.Sublist (laterOffsets first.count limit))
      (member : offset ∈ asked)
      (failed : source.actions addresses limit offset = .error failure) :
      PagesRun source addresses limit (0 :: asked) (.error failure)
  | joined
      {first : ActionsPage}
      {later : List ActionsPage}
      (answered : source.actions addresses limit 0 = .ok first)
      (laterAnswered :
        (laterOffsets first.count limit).mapM
            (source.actions addresses limit) =
          .ok later) :
      PagesRun source addresses limit
        (0 :: laterOffsets first.count limit)
        (.ok (first.actions ++ later.flatMap ActionsPage.actions))

end DataSource

end LiquidityReturns
