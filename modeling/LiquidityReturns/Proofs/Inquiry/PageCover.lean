import Mathlib
import LiquidityReturns.Inquiry.Requests
import LiquidityReturns.Proofs.Inquiry.Paging
import LiquidityReturns.Proofs.Returns.Computability

namespace LiquidityReturns

/-!
# Every action is on exactly one page

Page `page` begins at `page * limit`, and there is such a page exactly when it
begins below the number of actions.  This one fact gives the offsets, their
bounds, and that their windows are disjoint and leave nothing out, for every
page size and every number of actions that a source may tell.  In words of 64
bits neither the number of pages nor an offset wraps around.
-/

/--
The offsets of all pages; the first page is asked for even if there is no
action.
-/
def allOffsets (count limit : ℕ) : List ℕ :=
  0 :: laterOffsets count limit

/-- The offsets of all pages are the first multiples of the page size. -/
theorem allOffsets_eq (count limit : ℕ) :
    allOffsets count limit =
      (List.range (max 1 (pageCount count limit))).map
        fun page => page * limit := by
  have pages :
      max 1 (pageCount count limit) = pageCount count limit - 1 + 1 := by
    omega
  rw [pages, List.range_eq_range', List.range'_succ, List.map_cons,
    Nat.zero_mul]
  rfl

/-- The number of pages is a quotient, and one more if there is a remainder. -/
theorem pageCount_eq
    {limit : ℕ}
    (positive : 0 < limit)
    (count : ℕ) :
    pageCount count limit =
      if count % limit = 0 then count / limit else count / limit + 1 := by
  apply eq_of_forall_lt_iff
  intro page
  rw [lt_pageCount_iff positive]
  by_cases whole : count % limit = 0
  · rw [if_pos whole, Nat.lt_div_iff_mul_lt_of_dvd positive.ne'
      (Nat.dvd_of_mod_eq_zero whole)]
  · have between : page * limit ≠ count := by
      rintro rfl
      exact whole (Nat.mul_mod_left page limit)
    rw [if_neg whole, Nat.lt_succ_iff, Nat.le_div_iff_mul_le positive]
    exact ⟨le_of_lt, fun below => lt_of_le_of_ne below between⟩

/-- There are at most as many pages as actions. -/
theorem pageCount_le
    {limit : ℕ}
    (positive : 0 < limit)
    (count : ℕ) :
    pageCount count limit ≤ count := by
  by_contra more
  have begins := (lt_pageCount_iff positive).mp (Nat.not_le.mp more)
  exact absurd begins (Nat.not_lt.mpr (Nat.le_mul_of_pos_right count positive))

/--
How the pages at some offsets lie in a list of actions: each index below their
number is in one window.
-/
structure CoversOnce (count limit : ℕ) (offsets : List ℕ) : Prop where
  multiples :
    offsets =
      (List.range (max 1 (pageCount count limit))).map
        fun page => page * limit
  within_word :
    ∀ page < max 1 (pageCount count limit), page * limit ≤ 2 ^ 64 - 1
  later_below : ∀ offset ∈ offsets.tail, offset < count
  distinct : offsets.Nodup
  disjoint :
    offsets.Pairwise fun earlier later =>
      Disjoint (Set.Ico earlier (earlier + limit))
        (Set.Ico later (later + limit))
  covered :
    ∀ index < count,
      ∃ offset ∈ offsets, index ∈ Set.Ico offset (offset + limit)

section Cover

variable {count limit : ℕ}

/-- Pages begin at least a page size apart. -/
theorem pairwise_allOffsets (count limit : ℕ) :
    (allOffsets count limit).Pairwise fun earlier later =>
      earlier + limit ≤ later := by
  rw [allOffsets_eq, List.pairwise_map]
  apply List.pairwise_lt_range.imp
  intro earlier later before
  have next := Nat.mul_le_mul_right limit (Nat.succ_le_of_lt before)
  rwa [Nat.succ_mul] at next

/--
A page that begins below the number of actions begins below any bound of that
number.
-/
theorem page_mul_le
    (positive : 0 < limit)
    {bound : ℕ}
    (count_le : count ≤ bound)
    {page : ℕ}
    (within : page < max 1 (pageCount count limit)) :
    page * limit ≤ bound := by
  rcases Nat.eq_zero_or_pos page with rfl | later
  · simp
  · have begins : page < pageCount count limit := by
      omega
    exact ((lt_pageCount_iff positive).mp begins).le.trans count_le

/--
The page of an index begins at the last multiple of the page size up to it.
-/
theorem exists_window
    (positive : 0 < limit)
    {index : ℕ}
    (below : index < count) :
    ∃ offset ∈ allOffsets count limit,
      index ∈ Set.Ico offset (offset + limit) := by
  have division := Nat.div_add_mod' index limit
  have remainder := Nat.mod_lt index positive
  have begins : index / limit < pageCount count limit := by
    apply (lt_pageCount_iff positive).mpr
    omega
  refine ⟨index / limit * limit, ?_, ?_, ?_⟩
  · rw [allOffsets_eq]
    apply List.mem_map_of_mem
    exact List.mem_range.mpr (lt_max_of_lt_right begins)
  · omega
  · omega

/--
The pages at all offsets cover the actions once, and their offsets are words.
-/
theorem coversOnce_allOffsets
    (positive : 0 < limit)
    (count_le : count ≤ 2 ^ 64 - 1) :
    CoversOnce count limit (allOffsets count limit) where
  multiples := allOffsets_eq count limit
  within_word _ within := page_mul_le positive count_le within
  later_below offset member := by
    obtain ⟨page, _, below, rfl⟩ := (mem_laterOffsets positive).mp member
    exact below
  distinct := by
    apply (pairwise_allOffsets count limit).imp
    intro earlier later apart
    omega
  disjoint := by
    apply (pairwise_allOffsets count limit).imp
    intro earlier later apart
    apply Set.Ico_disjoint_Ico.mpr
    omega
  covered _ below := exists_window positive below

end Cover

namespace Word

/--
The number of pages in wrapping arithmetic of words: a quotient, and one more
for a remainder.
-/
def pageCount (count limit : UInt64) : UInt64 :=
  if limit = 0 then
    0
  else if count % limit = 0 then
    count / limit
  else
    count / limit + 1

/--
The offsets of the pages after the first, each a wrapping product of words.
-/
def laterOffsets (count limit : UInt64) : List UInt64 :=
  (List.range' 1 ((pageCount count limit).toNat - 1)).map fun page =>
    UInt64.ofNat page * limit

/-- The number of pages does not wrap around. -/
theorem toNat_pageCount
    {limit : UInt64}
    (positive : 0 < limit.toNat)
    (count : UInt64) :
    (pageCount count limit).toNat =
      LiquidityReturns.pageCount count.toNat limit.toNat := by
  have fits :
      LiquidityReturns.pageCount count.toNat limit.toNat < 2 ^ 64 :=
    (pageCount_le positive count.toNat).trans_lt count.toNat_lt
  have nonzero : limit ≠ 0 := by
    rintro rfl
    exact lt_irrefl 0 positive
  have whole_iff : count % limit = 0 ↔ count.toNat % limit.toNat = 0 := by
    rw [← UInt64.toNat_inj, UInt64.toNat_mod, UInt64.toNat_zero]
  rw [pageCount_eq positive] at fits ⊢
  unfold pageCount
  rw [if_neg nonzero]
  by_cases whole : count.toNat % limit.toNat = 0
  · rw [if_pos whole, if_pos (whole_iff.mpr whole), UInt64.toNat_div]
  · rw [if_neg whole] at fits
    rw [if_neg whole, if_neg (mt whole_iff.mp whole), UInt64.toNat_add,
      UInt64.toNat_div, UInt64.toNat_one, Nat.mod_eq_of_lt fits]

/-- No offset of a later page wraps around. -/
theorem map_toNat_laterOffsets
    {limit : UInt64}
    (positive : 0 < limit.toNat)
    (count : UInt64) :
    (laterOffsets count limit).map UInt64.toNat =
      LiquidityReturns.laterOffsets count.toNat limit.toNat := by
  have count_le := Nat.le_sub_one_of_lt count.toNat_lt
  unfold laterOffsets LiquidityReturns.laterOffsets
  rw [toNat_pageCount positive, List.map_map]
  apply List.map_congr_left
  intro page member
  have within :
      page <
        max 1 (LiquidityReturns.pageCount count.toNat limit.toNat) := by
    have bounds := List.mem_range'_1.mp member
    omega
  have product : page * limit.toNat < 2 ^ 64 :=
    Nat.lt_of_le_sub_one (by positivity)
      (page_mul_le positive count_le within)
  have small : page < 2 ^ 64 :=
    (Nat.le_mul_of_pos_right page positive).trans_lt product
  rw [Function.comp_apply, UInt64.toNat_mul, UInt64.toNat_ofNat',
    Nat.mod_eq_of_lt small, Nat.mod_eq_of_lt product]

end Word

namespace Traced

/--
Questions in a row ask a front part, all of it if they succeed, and up to a
failing one if they fail.
-/
theorem exists_asked_mapM
    {question : α → Traced ε β}
    {call : α → Call}
    (single : ∀ value, (question value).calls = [call value])
    (values : List α) :
    ∃ asked,
      (values.mapM question).calls = asked.map call ∧
        asked <+: values ∧
        (∀ results,
          (values.mapM question).outcome = .ok results →
            asked = values) ∧
        ∀ failure,
          (values.mapM question).outcome = .error failure →
            ∃ value ∈ asked, (question value).outcome = .error failure := by
  induction values with
  | nil =>
      refine ⟨[], rfl, List.nil_prefix, fun _ _ => rfl, ?_⟩
      intro failure failed
      cases failed
  | cons first rest inductionHypothesis =>
      rw [List.mapM_cons, outcome_bind]
      cases answered : (question first).outcome with
      | error failure =>
          refine ⟨[first], ?_, ?_, ?_, ?_⟩
          · rw [calls_bind_of_error answered, single]
            rfl
          · exact (List.prefix_cons_inj _).mpr List.nil_prefix
          · intro results succeeded
            cases succeeded
          · intro reason failed
            cases failed
            exact ⟨first, by simp, answered⟩
      | ok result =>
          obtain ⟨asked, calls, front, all, failing⟩ := inductionHypothesis
          rw [Outcome.ok_bind, outcome_bind]
          refine ⟨first :: asked, ?_, ?_, ?_, ?_⟩
          · rw [calls_bind_of_ok answered, calls_bind_pure, single, calls]
            rfl
          · exact (List.prefix_cons_inj _).mpr front
          · intro results succeeded
            obtain ⟨found, gathered, _⟩ :=
              Outcome.bind_eq_ok_iff.mp succeeded
            exact congrArg _ (all found gathered)
          · intro failure failed
            rcases Outcome.bind_eq_error_iff.mp failed with
              stopped | ⟨_, _, impossible⟩
            · obtain ⟨value, member, reason⟩ := failing failure stopped
              exact ⟨value, List.mem_cons_of_mem _ member, reason⟩
            · cases impossible

end Traced

namespace DataSource

/--
A source whose pages are the windows of a list of actions at their offsets.
-/
def ServesWindows
    (source : DataSource)
    (addresses : List Address)
    (limit : ℕ)
    (items : List Action) : Prop :=
  ∀ offset,
    ∃ page,
      source.actions addresses limit offset = .ok page ∧
        page.actions = (items.drop offset).take limit

/--
What holds of a run of questions for pages: what was asked for, and how it
ended.
-/
structure AsksPages
    (source : DataSource)
    (addresses : List Address)
    (limit count : ℕ)
    (asked : List ℕ)
    (outcome : Except SourceError (List Action)) : Prop where
  planned : asked.Sublist (allOffsets count limit)
  all_asked :
    (∀ offset ∈ allOffsets count limit,
      ∃ page, source.actions addresses limit offset = .ok page) →
        asked = allOffsets count limit
  joins :
    ∀ items : List Action,
      items.length = count →
        source.ServesWindows addresses limit items →
          outcome = .ok items

variable
  {source : DataSource}
  {addresses : List Address}
  {limit : ℕ}
  {first : ActionsPage}

/-- Pages that are windows of a list join as the windows do. -/
theorem flatMap_actions_of_windows
    {items : List Action}
    (serves : source.ServesWindows addresses limit items)
    {offsets : List ℕ}
    {pages : List ActionsPage}
    (answered :
      offsets.mapM (source.actions addresses limit) = .ok pages) :
    pages.flatMap ActionsPage.actions =
      offsets.flatMap fun offset => (items.drop offset).take limit := by
  have related := Outcome.mapM_eq_ok_iff.mp answered
  induction related with
  | nil =>
      rfl
  | cons found rest inductionHypothesis =>
      rename_i offset page offsets pages
      obtain ⟨served, same, window⟩ := serves offset
      cases found.symm.trans same
      rw [List.flatMap_cons, List.flatMap_cons, window,
        inductionHypothesis (Outcome.mapM_eq_ok_iff.mpr rest)]

/-- What is asked for, and how it ends, once the first page was answered. -/
theorem asksPages_of_run
    (positive : 0 < limit)
    (answered : source.actions addresses limit 0 = .ok first)
    {asked : List ℕ}
    {outcome : Except SourceError (List Action)}
    (run : source.PagesRun addresses limit asked outcome) :
    source.AsksPages addresses limit first.count asked outcome := by
  cases run with
  | firstFailed failed =>
      cases answered.symm.trans failed
  | @laterFailed _ _ offset _ other begun member failed =>
      cases answered.symm.trans other
      refine ⟨begun.cons_cons 0, ?_, ?_⟩
      · intro allAnswered
        have planned : offset ∈ allOffsets first.count limit :=
          List.mem_cons_of_mem 0 (begun.subset member)
        obtain ⟨page, found⟩ := allAnswered offset planned
        cases failed.symm.trans found
      · intro items _ serves
        obtain ⟨page, found, _⟩ := serves offset
        cases failed.symm.trans found
  | joined other laterAnswered =>
      cases answered.symm.trans other
      refine ⟨List.Sublist.refl _, fun _ => rfl, ?_⟩
      intro items told serves
      obtain ⟨page, found, window⟩ := serves 0
      cases answered.symm.trans found
      rw [flatMap_actions_of_windows serves laterAnswered, window,
        List.drop_zero, ← told, window_append_laterWindows positive]

/-- The ways in which asking for all pages may end are the ends of its runs. -/
theorem pagesEnd_iff_exists_run
    {outcome : Except SourceError (List Action)} :
    source.PagesEnd addresses limit outcome ↔
      ∃ asked, source.PagesRun addresses limit asked outcome := by
  constructor
  · intro ended
    cases ended with
    | firstFailed failed =>
        exact ⟨_, .firstFailed failed⟩
    | laterFailed answered asked failed =>
        exact ⟨_, .laterFailed answered (List.Sublist.refl _) asked failed⟩
    | joined answered laterAnswered =>
        exact ⟨_, .joined answered laterAnswered⟩
  · rintro ⟨asked, run⟩
    cases run with
    | firstFailed failed =>
        exact .firstFailed failed
    | laterFailed answered begun member failed =>
        exact .laterFailed answered (begun.subset member) failed
    | joined answered laterAnswered =>
        exact .joined answered laterAnswered

/-- Asking for one page after another is a run. -/
theorem exists_run_askAllActions
    (source : DataSource)
    (addresses : List Address)
    (limit : ℕ) :
    ∃ asked,
      (source.askAllActions addresses limit).calls =
          asked.map (Call.actions addresses limit) ∧
        source.PagesRun addresses limit asked
          (source.askAllActions addresses limit).outcome := by
  unfold askAllActions
  rw [Traced.outcome_bind]
  cases answered : source.actions addresses limit 0 with
  | error failure =>
      have failed :
          (source.askPage addresses limit 0).outcome = .error failure :=
        answered
      refine ⟨[0], Traced.calls_bind_of_error failed _, ?_⟩
      rw [failed]
      exact .firstFailed answered
  | ok first =>
      have succeeded :
          (source.askPage addresses limit 0).outcome = .ok first :=
        answered
      have single :
          ∀ offset,
            (source.askPage addresses limit offset).calls =
              [.actions addresses limit offset] :=
        fun _ => rfl
      obtain ⟨asked, calls, front, all, failing⟩ :=
        Traced.exists_asked_mapM single (laterOffsets first.count limit)
      refine ⟨0 :: asked, ?_, ?_⟩
      · rw [Traced.calls_bind_of_ok succeeded, Traced.calls_bind_pure, calls]
        rfl
      · rw [succeeded, Outcome.ok_bind, Traced.outcome_bind]
        cases gathered :
            ((laterOffsets first.count limit).mapM
              (source.askPage addresses limit)).outcome with
        | error failure =>
            obtain ⟨offset, member, failed⟩ := failing failure gathered
            exact .laterFailed answered front.sublist member failed
        | ok later =>
            have everything := all later gathered
            subst everything
            rw [Traced.outcome_mapM] at gathered
            exact .joined answered gathered

end DataSource

/--
The offsets of all pages are the multiples of the page size up to the last page
that begins below the number of actions.  Their windows are disjoint and cover
every action, and in words nothing wraps around.  Every run of questions asks
for these offsets only, for each at most once, and for all of them unless a
page fails.  The pages of a list of actions join to that list.
-/
theorem pages_cover_every_action_once
    {source : DataSource}
    {addresses : List Address}
    {limit : ℕ}
    (positive : 1 ≤ limit)
    (limit_le : limit ≤ 2 ^ 64 - 1)
    {first : ActionsPage}
    (answered : source.actions addresses limit 0 = .ok first)
    (count_le : first.count ≤ 2 ^ 64 - 1) :
    CoversOnce first.count limit (allOffsets first.count limit) ∧
    (Word.laterOffsets (.ofNat first.count) (.ofNat limit)).map
        UInt64.toNat =
      laterOffsets first.count limit ∧
    (∀ items : List Action,
      items.length = first.count →
        (allOffsets first.count limit).flatMap
            (fun offset => (items.drop offset).take limit) =
          items) ∧
    (∀ asked outcome,
      source.PagesRun addresses limit asked outcome →
        source.AsksPages addresses limit first.count asked outcome) ∧
    ∃ asked,
      (source.askAllActions addresses limit).calls =
          asked.map (Call.actions addresses limit) ∧
        source.PagesRun addresses limit asked
          (source.askAllActions addresses limit).outcome := by
  have limit_word : (UInt64.ofNat limit).toNat = limit :=
    UInt64.toNat_ofNat_of_lt' (Nat.lt_of_le_sub_one (by decide) limit_le)
  have count_word : (UInt64.ofNat first.count).toNat = first.count :=
    UInt64.toNat_ofNat_of_lt' (Nat.lt_of_le_sub_one (by decide) count_le)
  refine ⟨coversOnce_allOffsets positive count_le, ?_, ?_, ?_, ?_⟩
  · rw [Word.map_toNat_laterOffsets (limit_word.symm ▸ positive),
      limit_word, count_word]
  · intro items told
    rw [← told]
    exact window_append_laterWindows positive items
  · intro asked outcome run
    exact DataSource.asksPages_of_run positive answered run
  · exact source.exists_run_askAllActions addresses limit

namespace Sample

/-- A source that tells of as many actions as a word can count. -/
def crowdedSource : DataSource where
  member _ := .error .rateLimited
  pool _ := .error .rateLimited
  actions _ _ _ := .ok ⟨[addition], 2 ^ 64 - 1⟩
  price _ _ := .error .rateLimited

end Sample

/--
Of the most actions, pages of half the words need two offsets; that of a third
page would wrap around.
-/
theorem pages_cover_every_action_once_sample :
    1 ≤ 2 ^ 63 ∧
    2 ^ 63 ≤ 2 ^ 64 - 1 ∧
    Sample.crowdedSource.actions [] (2 ^ 63) 0 =
      .ok ⟨[Sample.addition], 2 ^ 64 - 1⟩ ∧
    allOffsets (2 ^ 64 - 1) (2 ^ 63) = [0, 2 ^ 63] ∧
    CoversOnce (2 ^ 64 - 1) (2 ^ 63) [0, 2 ^ 63] ∧
    ∀ asked outcome,
      Sample.crowdedSource.PagesRun [] (2 ^ 63) asked outcome →
        asked = [0, 2 ^ 63] := by
  have positive : 1 ≤ 2 ^ 63 := by
    decide
  have limit_le : 2 ^ 63 ≤ 2 ^ 64 - 1 := by
    decide
  have answered :
      Sample.crowdedSource.actions [] (2 ^ 63) 0 =
        .ok ⟨[Sample.addition], 2 ^ 64 - 1⟩ :=
    rfl
  have offsets : allOffsets (2 ^ 64 - 1) (2 ^ 63) = [0, 2 ^ 63] := by
    decide +kernel
  obtain ⟨covers, _, _, asks, _⟩ :=
    pages_cover_every_action_once positive limit_le answered le_rfl
  refine ⟨positive, limit_le, answered, offsets, offsets ▸ covers, ?_⟩
  intro asked outcome run
  have everything :=
    (asks asked outcome run).all_asked fun _ _ => ⟨_, rfl⟩
  exact everything.trans offsets

end LiquidityReturns
