import Mathlib
import LiquidityReturns.Prices.Series

namespace LiquidityReturns

/-!
# What a price history knows

The history of some samples knows a second if one of them is a sample of that
second, and its prices are those of the last such sample.  Samples that stem
from one answer a second give the same history in every order.  A series is
determined by what it knows: two that give the same prices are the same.
-/

namespace PriceSeries

/-- The price of a second is the last one that was inserted for it. -/
theorem get?_ofList (prices : List (Second × Decimal)) (second : Second) :
    (ofList prices).get? second = prices.reverse.lookup second := by
  induction prices using List.reverseRecOn with
  | nil =>
      rfl
  | append_singleton earlier last inductionHypothesis =>
      have inserted :
          ofList (earlier ++ [last]) =
            (ofList earlier).insert last.1 last.2 := by
        simp [ofList, insertAll]
      rw [inserted, get?_insert, inductionHypothesis, List.reverse_concat,
        lookup_entry]

/-- Where no second occurs twice, an entry is found under its second. -/
theorem lookup_eq_some_iff
    {entries : List (Second × Decimal)}
    (distinct : (entries.map Prod.fst).Nodup)
    {second : Second}
    {price : Decimal} :
    entries.lookup second = some price ↔ (second, price) ∈ entries := by
  induction entries with
  | nil =>
      simp
  | cons first rest inductionHypothesis =>
      rcases first with ⟨other, firstPrice⟩
      rw [List.map_cons, List.nodup_cons] at distinct
      have later := inductionHypothesis distinct.2
      by_cases same : second = other
      · subst same
        have absent : (second, price) ∉ rest := fun member =>
          distinct.1 (List.mem_map.mpr ⟨_, member, rfl⟩)
        simp [absent, eq_comm]
      · simp [lookup_entry, same, later]

theorem nodup_seconds (series : PriceSeries) :
    (series.entries.map Prod.fst).Nodup := by
  apply List.Pairwise.map Prod.fst _ series.ascending
  intro left right earlier same
  rw [same] at earlier
  exact Second.before_irrefl right.1 earlier

/--
The entries of a series are the seconds that have a price, with their prices.
-/
theorem mem_entries_iff
    {series : PriceSeries}
    {second : Second}
    {price : Decimal} :
    (second, price) ∈ series.entries ↔ series.get? second = some price :=
  (lookup_eq_some_iff series.nodup_seconds).symm

/-- Series that give every second the same price are the same. -/
theorem ext_get?
    {left right : PriceSeries}
    (same : ∀ second, left.get? second = right.get? second) :
    left = right := by
  have members :
      ∀ entry, entry ∈ left.entries ↔ entry ∈ right.entries := by
    rintro ⟨second, price⟩
    rw [mem_entries_iff, mem_entries_iff, same]
  have entries : left.entries = right.entries := by
    apply List.Perm.eq_of_pairwise _ left.ascending right.ascending
    · exact (List.perm_ext_iff_of_nodup
        (List.Nodup.of_map _ left.nodup_seconds)
        (List.Nodup.of_map _ right.nodup_seconds)).mpr members
    · intro first second _ _ earlier later
      exact (Second.before_irrefl first.1
        (Second.before_trans earlier later)).elim
  cases left
  cases right
  simpa using entries

/-- A series has as many entries as there are seconds that have a price. -/
theorem size_eq_length
    {series : PriceSeries}
    {seconds : List Second}
    (distinct : seconds.Nodup)
    (priced :
      ∀ second, second ∈ seconds ↔ (series.get? second).isSome = true) :
    series.size = seconds.length := by
  have same : (series.entries.map Prod.fst).Perm seconds := by
    apply (List.perm_ext_iff_of_nodup series.nodup_seconds distinct).mpr
    intro second
    rw [priced, Option.isSome_iff_exists]
    simp [mem_entries_iff]
  rw [size, ← List.length_map Prod.fst]
  exact same.length_eq

end PriceSeries

namespace PriceSample

/-- The last sample of a second. -/
def lastAt? (samples : List PriceSample) (second : Second) :
    Option PriceSample :=
  samples.reverse.find? fun sample => sample.second = second

/--
A price that samples give to their seconds is looked up in the first sample of
a second.
-/
theorem lookup_map
    (price : PriceSample → Decimal)
    (samples : List PriceSample)
    (second : Second) :
    (samples.map fun sample => (sample.second, price sample)).lookup second =
      (samples.find? fun sample => sample.second = second).map price := by
  induction samples with
  | nil =>
      rfl
  | cons first rest inductionHypothesis =>
      rw [List.map_cons, PriceSeries.lookup_entry, List.find?_cons]
      by_cases same : second = first.second
      · simp [same]
      · simp [same, Ne.symm same, inductionHypothesis]

/--
Samples that stem from one answer a second, keyed by that second, are known
by exactly these answers.
-/
theorem lastAt?_of_answers
    {answer : Second → Option PriceSample}
    (keyed :
      ∀ second sample, answer second = some sample → sample.second = second)
    {seconds : List Second}
    {samples : List PriceSample}
    (gathered : samples.Perm (seconds.filterMap answer))
    {second : Second}
    (member : second ∈ seconds) :
    lastAt? samples second = answer second := by
  have stems :
      ∀ sample ∈ samples.reverse, answer sample.second = some sample := by
    intro sample sampleMember
    rw [List.mem_reverse, gathered.mem_iff, List.mem_filterMap]
      at sampleMember
    obtain ⟨asked, _, answered⟩ := sampleMember
    rw [keyed asked sample answered, answered]
  unfold lastAt?
  cases found :
      samples.reverse.find? fun sample => sample.second = second with
  | some sample =>
      have same : sample.second = second := by
        simpa using List.find?_some found
      rw [← same, stems sample (List.mem_of_find?_eq_some found)]
  | none =>
      cases answered : answer second with
      | none =>
          rfl
      | some sample =>
          have sampleMember : sample ∈ samples.reverse := by
            rw [List.mem_reverse, gathered.mem_iff]
            exact List.mem_filterMap.mpr ⟨second, member, answered⟩
          have different := List.find?_eq_none.mp found sample sampleMember
          simp [keyed second sample answered] at different

end PriceSample

namespace PriceHistory

/-- The price in rune is that of the last sample of a second. -/
theorem inRune_ofSamples (samples : List PriceSample) (second : Second) :
    (ofSamples samples).inRune.get? second =
      (PriceSample.lastAt? samples second).map PriceSample.assetPrice := by
  unfold ofSamples PriceSample.lastAt?
  rw [PriceSeries.get?_ofList, ← List.map_reverse]
  exact PriceSample.lookup_map _ _ _

/-- The price in dollars is that of the last sample of a second. -/
theorem inUsd_ofSamples (samples : List PriceSample) (second : Second) :
    (ofSamples samples).inUsd.get? second =
      (PriceSample.lastAt? samples second).map
        PriceSample.assetPriceUsd := by
  unfold ofSamples PriceSample.lastAt?
  rw [PriceSeries.get?_ofList, ← List.map_reverse]
  exact PriceSample.lookup_map _ _ _

end PriceHistory

end LiquidityReturns
