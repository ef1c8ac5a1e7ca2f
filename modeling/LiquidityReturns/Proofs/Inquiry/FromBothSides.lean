import Mathlib
import LiquidityReturns.Proofs.Inquiry.CompletionOrder
import LiquidityReturns.Proofs.Inquiry.DirectReturns
import LiquidityReturns.Proofs.Inquiry.InquiryOutcome
import LiquidityReturns.Proofs.Inquiry.PageCover
import LiquidityReturns.Proofs.Pool.Sides

namespace LiquidityReturns

/-!
# Inquiries from both sides of a position

Once the member's record is found, an inquiry looks at the queried address only
to select the addresses whose actions it asks for, and to put it into the
result.  Both recorded addresses select the same list, so inquiries from both
sides ask for the same pages and prices and compute the same returns.
-/

/-- The same returns of a position, under another of its addresses. -/
def PositionReturns.under
    (returns : PositionReturns)
    (address : Address) :
    PositionReturns :=
  { returns with address }

theorem PositionReturns.ofGathered_under
    (first second : Address)
    (member : MemberPool)
    (poolState : PoolState)
    (actions : List Action)
    (samples : List PriceSample) :
    ofGathered second member poolState actions samples =
      (ofGathered first member poolState actions samples).map
        fun returns => returns.under second := by
  unfold ofGathered
  cases computeReturns member.position poolState actions
      (PriceHistory.ofSamples samples) <;> rfl

/-- An answer stays as it is when failures are restated. -/
theorem Traced.outcome_restated
    {call : Call}
    {answer : Except ε α}
    {value : α}
    (answered : answer = .ok value)
    {restate : ε → δ} :
    ((ask call answer).mapError restate).outcome = .ok value := by
  rw [answered]
  rfl

namespace DataSource

/--
The part of an inquiry that follows the lookups of the member and the pool.
-/
def gatherReturns
    (source : DataSource)
    (config : Config)
    (address : Address)
    (pool : Asset)
    (member : MemberPool)
    (poolState : PoolState) :
    Traced InquiryError PositionReturns := do
  let actions ←
    (source.askAllActions (member.actionAddresses address)
      config.actionsPageLimit).mapError .source
  let samples ← (source.askPrices pool actions).mapError .source
  .ofExcept
    (PositionReturns.ofGathered address member poolState actions samples)

variable
  {source : DataSource}
  {config : Config}
  {address : Address}
  {pool : Asset}
  {member : MemberPool}
  {poolState : PoolState}

/-- An inquiry looks up the member and the pool first. -/
theorem positionReturns_eq
    (source : DataSource)
    (config : Config)
    (address : Address)
    (pool : Asset) :
    source.positionReturns config address pool =
      source.askPosition address pool >>= fun found =>
        source.gatherReturns config address pool found.1 found.2 :=
  rfl

theorem calls_askPosition_of_shown
    (shown : source.ShowsPosition address pool member poolState) :
    (source.askPosition address pool).calls =
      [.member address, .pool pool] := by
  obtain ⟨⟨members, memberFound, first⟩, poolFound⟩ := shown
  unfold askPosition
  rw [Traced.calls_bind_of_ok (Traced.outcome_restated memberFound),
    Traced.calls_bind_of_ok (Traced.outcome_restated poolFound), first]
  rfl

/--
Where a position is shown, both lookups are asked first and the rest follows.
-/
theorem calls_positionReturns_of_shown
    (shown : source.ShowsPosition address pool member poolState)
    (config : Config) :
    (source.positionReturns config address pool).calls =
      .member address :: .pool pool ::
        (source.gatherReturns config address pool member poolState).calls := by
  rw [positionReturns_eq,
    Traced.calls_bind_of_ok (askPosition_eq_ok_iff.mpr shown),
    calls_askPosition_of_shown shown]
  rfl

/--
Where a position is shown, the inquiry ends as the part after the lookups does.
-/
theorem outcome_positionReturns_of_shown
    (shown : source.ShowsPosition address pool member poolState)
    (config : Config) :
    (source.positionReturns config address pool).outcome =
      (source.gatherReturns config address pool member poolState).outcome := by
  rw [positionReturns_eq, Traced.outcome_bind,
    askPosition_eq_ok_iff.mpr shown]
  rfl

/-- A run of questions for all pages asks for the first page first. -/
theorem PagesRun.first_asked
    {addresses : List Address}
    {limit : ℕ}
    {asked : List ℕ}
    {outcome : Except SourceError (List Action)}
    (run : source.PagesRun addresses limit asked outcome) :
    ∃ later, asked = 0 :: later := by
  cases run with
  | firstFailed failed =>
      exact ⟨[], rfl⟩
  | laterFailed answered begun member failed =>
      exact ⟨_, rfl⟩
  | joined answered laterAnswered =>
      exact ⟨_, rfl⟩

/--
After the lookups, the first page is asked for, then more pages, then prices.
-/
theorem exists_calls_gatherReturns
    (source : DataSource)
    (config : Config)
    (address : Address)
    (pool : Asset)
    (member : MemberPool)
    (poolState : PoolState) :
    ∃ (offsets : List ℕ) (seconds : List Second),
      (source.gatherReturns config address pool member poolState).calls =
        (0 :: offsets).map
            (Call.actions (member.actionAddresses address)
              config.actionsPageLimit) ++
          seconds.map (Call.price pool) := by
  obtain ⟨asked, pages, run⟩ :=
    source.exists_run_askAllActions (member.actionAddresses address)
      config.actionsPageLimit
  obtain ⟨offsets, rfl⟩ := run.first_asked
  refine ⟨offsets, ?_⟩
  unfold gatherReturns
  cases outcome :
      ((source.askAllActions (member.actionAddresses address)
        config.actionsPageLimit).mapError InquiryError.source).outcome with
  | error failure =>
      refine ⟨[], ?_⟩
      rw [Traced.calls_bind_of_error outcome, List.map_nil, List.append_nil]
      exact pages
  | ok actions =>
      obtain ⟨seconds, prices, _⟩ :=
        source.exists_run_askPrices pool actions Nat.one_pos
      refine ⟨seconds, ?_⟩
      rw [Traced.calls_bind_of_ok outcome, Traced.calls_bind_ofExcept,
        ← prices, ← pages]
      rfl

/-- From addresses that select the same list, the same is asked and found. -/
theorem gatherReturns_of_same_selection
    {first second : Address}
    (same : member.actionAddresses first = member.actionAddresses second)
    (source : DataSource)
    (config : Config)
    (pool : Asset)
    (poolState : PoolState) :
    source.gatherReturns config second pool member poolState =
      source.gatherReturns config first pool member poolState >>=
        fun returns => pure (returns.under second) := by
  unfold gatherReturns
  rw [same, bind_assoc]
  refine bind_congr fun actions => ?_
  rw [bind_assoc]
  refine bind_congr fun samples => ?_
  rw [PositionReturns.ofGathered_under first second]
  cases PositionReturns.ofGathered first member poolState actions samples <;>
    rfl

/--
What inquiries from both addresses of a position have in common: they ask for
the same pages of the actions of both addresses and for the same prices, and
they find the same.
-/
structure InquiresAlike
    (source : DataSource)
    (config : Config)
    (pool : Asset)
    (rune asset : Address) : Prop where
  asks :
    ∃ (offsets : List ℕ) (seconds : List Second),
      ∀ address,
        address = rune ∨ address = asset →
          (source.positionReturns config address pool).calls =
            .member address :: .pool pool ::
              ((0 :: offsets).map
                  (Call.actions [rune, asset] config.actionsPageLimit) ++
                seconds.map (Call.price pool))
  finds :
    (source.positionReturns config asset pool).outcome =
      (source.positionReturns config rune pool).outcome.map
        fun returns => returns.under asset

/-- Where both addresses show the position, inquiries from both are alike. -/
theorem inquiresAlike_of_recordsBoth
    {rune asset : Address}
    (both : member.RecordsBoth rune asset)
    (config : Config)
    (fromRune : source.ShowsPosition rune pool member poolState)
    (fromAsset : source.ShowsPosition asset pool member poolState) :
    source.InquiresAlike config pool rune asset := by
  have runeSelects := both.actionAddresses_eq (.inl rfl)
  have assetSelects := both.actionAddresses_eq (.inr rfl)
  have same :=
    gatherReturns_of_same_selection (runeSelects.trans assetSelects.symm)
      source config pool poolState
  constructor
  · obtain ⟨offsets, seconds, calls⟩ :=
      source.exists_calls_gatherReturns config rune pool member poolState
    rw [runeSelects] at calls
    refine ⟨offsets, seconds, ?_⟩
    rintro address (rfl | rfl)
    · rw [calls_positionReturns_of_shown fromRune, calls]
    · rw [calls_positionReturns_of_shown fromAsset, same,
        Traced.calls_bind_pure, calls]
  · rw [outcome_positionReturns_of_shown fromRune,
      outcome_positionReturns_of_shown fromAsset, same, Traced.outcome_bind]
    cases (source.gatherReturns config rune pool member poolState).outcome <;>
      rfl

end DataSource

/--
The selected addresses are those of both sides that are not blank, each once
and the base-asset side first: the queried address, and what is recorded on the
opposite side.  No other list is so.  If both sides are recorded, both
addresses select the same list, and inquiries from them are alike.
-/
theorem addresses_selected_alike_from_both_sides (member : MemberPool) :
    (∀ queried,
      member.Selects queried (member.actionAddresses queried) ∧
        ∀ selected,
          member.Selects queried selected →
            selected = member.actionAddresses queried) ∧
    ∀ rune asset,
      member.RecordsBoth rune asset →
        member.actionAddresses rune = [rune, asset] ∧
        member.actionAddresses asset = [rune, asset] ∧
        ∀ source : DataSource,
        ∀ config pool poolState,
          source.ShowsPosition rune pool member poolState →
          source.ShowsPosition asset pool member poolState →
            source.InquiresAlike config pool rune asset := by
  constructor
  · intro queried
    refine ⟨member.selects_actionAddresses queried, ?_⟩
    intro selected laws
    exact laws.eq_actionAddresses
  · intro rune asset both
    refine ⟨both.actionAddresses_eq (.inl rfl),
      both.actionAddresses_eq (.inr rfl), ?_⟩
    intro source config pool poolState fromRune fromAsset
    exact source.inquiresAlike_of_recordsBoth both config fromRune fromAsset

namespace Sample

/-- The address of the sample member on the side of the pool's own asset. -/
def assetAddress : Address :=
  ⟨"bc1member"⟩

/-- A record of the sample position with the addresses of both sides. -/
def twoSidedMember : MemberPool :=
  { member with assetAddress := some assetAddress }

/-- The sample records, with the member's record under both addresses. -/
def twoSidedFixture : Fixture :=
  { fixture with
    members :=
      [(address, twoSidedMember), (assetAddress, twoSidedMember)] }

end Sample

/-- An address that is recorded on both sides is selected once. -/
example :
    { Sample.twoSidedMember with
        assetAddress := some Sample.address }.actionAddresses
      Sample.address = [Sample.address] := by
  decide

/--
From the side of the pool's own asset, the actions of both addresses are asked
for on two pages.
-/
theorem addresses_selected_alike_from_both_sides_sample :
    Sample.twoSidedMember.RecordsBoth Sample.address Sample.assetAddress ∧
    Sample.twoSidedFixture.source.ShowsPosition Sample.address Sample.pool
      Sample.twoSidedMember Sample.state ∧
    Sample.twoSidedFixture.source.ShowsPosition Sample.assetAddress
      Sample.pool Sample.twoSidedMember Sample.state ∧
    Sample.twoSidedMember.Selects ⟨"thor1other"⟩
      [⟨"thor1other"⟩, Sample.assetAddress] ∧
    Sample.twoSidedMember.actionAddresses Sample.address =
      [Sample.address, Sample.assetAddress] ∧
    Sample.twoSidedMember.actionAddresses Sample.assetAddress =
      [Sample.address, Sample.assetAddress] ∧
    Sample.twoSidedFixture.source.InquiresAlike Sample.config Sample.pool
      Sample.address Sample.assetAddress ∧
    (Sample.twoSidedFixture.source.positionReturns Sample.config
        Sample.assetAddress Sample.pool).calls =
      [.member Sample.assetAddress, .pool Sample.pool,
        .actions [Sample.address, Sample.assetAddress] 2 0,
        .actions [Sample.address, Sample.assetAddress] 2 2,
        .price Sample.pool ⟨1⟩, .price Sample.pool ⟨2⟩] := by
  have both :
      Sample.twoSidedMember.RecordsBoth Sample.address
        Sample.assetAddress := {
    rune_recorded := rfl
    rune_marked := by decide
    asset_recorded := rfl
    asset_visible := by decide
    asset_unmarked := by decide
  }
  have fromRune :
      Sample.twoSidedFixture.source.ShowsPosition Sample.address Sample.pool
        Sample.twoSidedMember Sample.state :=
    ⟨⟨_, rfl, by decide⟩, rfl⟩
  have fromAsset :
      Sample.twoSidedFixture.source.ShowsPosition Sample.assetAddress
        Sample.pool Sample.twoSidedMember Sample.state :=
    ⟨⟨_, rfl, by decide⟩, rfl⟩
  obtain ⟨selected, alike⟩ :=
    addresses_selected_alike_from_both_sides Sample.twoSidedMember
  obtain ⟨runeSelects, assetSelects, inquires⟩ := alike _ _ both
  have laws := (selected ⟨"thor1other"⟩).1
  rw [show Sample.twoSidedMember.actionAddresses ⟨"thor1other"⟩ =
    [⟨"thor1other"⟩, Sample.assetAddress] by decide] at laws
  exact ⟨both, fromRune, fromAsset, laws, runeSelects, assetSelects,
    inquires _ _ _ _ fromRune fromAsset, by decide +kernel⟩

end LiquidityReturns
