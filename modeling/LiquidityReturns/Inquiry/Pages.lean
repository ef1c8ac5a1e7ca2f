import LiquidityReturns.Inquiry.Traced

namespace LiquidityReturns

/-!
# All pages of a list of actions

The first page tells how many actions there are.  The remaining pages follow
at every multiple of the page size below that number.
-/

/-- The number of pages that hold the given number of actions. -/
def pageCount (count limit : Nat) : Nat :=
  if limit = 0 then
    0
  else
    (count + limit - 1) / limit

/-- The offsets of the pages after the first. -/
def laterOffsets (count limit : Nat) : List Nat :=
  (List.range' 1 (pageCount count limit - 1)).map fun page => page * limit

namespace DataSource

def askPage
    (source : DataSource)
    (addresses : List Address)
    (limit offset : Nat) :
    Traced SourceError ActionsPage :=
  .ask (.actions addresses limit offset)
    (source.actions addresses limit offset)

/-- Ask for all pages and join them in order. -/
def askAllActions
    (source : DataSource)
    (addresses : List Address)
    (limit : Nat) :
    Traced SourceError (List Action) := do
  let first ← source.askPage addresses limit 0
  let later ←
    (laterOffsets first.count limit).mapM
      (source.askPage addresses limit)
  return first.actions ++ later.flatMap ActionsPage.actions

/-- The outcome comes from the answers alone, the first page first. -/
theorem outcome_askAllActions
    (source : DataSource)
    (addresses : List Address)
    (limit : Nat) :
    (source.askAllActions addresses limit).outcome = (do
      let first ← source.actions addresses limit 0
      let later ←
        (laterOffsets first.count limit).mapM
          (source.actions addresses limit)
      return first.actions ++ later.flatMap ActionsPage.actions) := by
  unfold askAllActions
  simp only [Traced.outcome_bind, Traced.outcome_mapM, Traced.outcome_pure]
  rfl

end DataSource

end LiquidityReturns
