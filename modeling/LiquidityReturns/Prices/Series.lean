import LiquidityReturns.Decimal.Arithmetic
import LiquidityReturns.Ledger.Time

namespace LiquidityReturns

/-!
# Price series

A series holds at most one price per second, in ascending order of seconds.
There is no interpolation: a second without a price has none.
-/

/-- The two prices of a pool's asset at one second. -/
structure PriceSample where
  second : Second
  assetPrice : Decimal
  assetPriceUsd : Decimal
  deriving Repr, DecidableEq

/-- Prices by second, ascending. -/
structure PriceSeries where
  entries : List (Second × Decimal)
  ascending : entries.Pairwise fun left right => left.1.before right.1
  deriving DecidableEq

namespace PriceSeries

/-- A series without prices. -/
def empty : PriceSeries :=
  ⟨[], .nil⟩

/-- Put a price into ascending entries; it replaces the price of its second. -/
def insertEntry (second : Second) (price : Decimal) :
    List (Second × Decimal) → List (Second × Decimal)
  | [] =>
      [(second, price)]
  | first :: rest =>
      if second.before first.1 then
        (second, price) :: first :: rest
      else if first.1.before second then
        first :: insertEntry second price rest
      else
        (second, price) :: rest

theorem mem_insertEntry
    {second : Second}
    {price : Decimal}
    {entries : List (Second × Decimal)}
    {entry : Second × Decimal}
    (member : entry ∈ insertEntry second price entries) :
    entry = (second, price) ∨ entry ∈ entries := by
  induction entries with
  | nil =>
      simpa [insertEntry] using member
  | cons first rest inductionHypothesis =>
      unfold insertEntry at member
      split at member
      · simpa using member
      · split at member
        · rcases List.mem_cons.mp member with same | later
          · exact .inr (by simp [same])
          · rcases inductionHypothesis later with found | found
            · exact .inl found
            · exact .inr (List.mem_cons_of_mem first found)
        · rcases List.mem_cons.mp member with same | later
          · exact .inl same
          · exact .inr (List.mem_cons_of_mem first later)

theorem ascending_insertEntry
    (second : Second)
    (price : Decimal)
    {entries : List (Second × Decimal)}
    (ascending :
      entries.Pairwise fun left right => left.1.before right.1) :
    (insertEntry second price entries).Pairwise
      fun left right => left.1.before right.1 := by
  induction entries with
  | nil =>
      simp [insertEntry]
  | cons first rest inductionHypothesis =>
      rw [List.pairwise_cons] at ascending
      unfold insertEntry
      split
      · rename_i earlier
        refine List.pairwise_cons.mpr ⟨?_, List.pairwise_cons.mpr ascending⟩
        intro entry member
        rcases List.mem_cons.mp member with same | later
        · simpa [same] using earlier
        · exact Second.before_trans earlier (ascending.1 entry later)
      · split
        · rename_i later
          refine List.pairwise_cons.mpr
            ⟨?_, inductionHypothesis ascending.2⟩
          intro entry member
          rcases mem_insertEntry member with same | found
          · simpa [same] using later
          · exact ascending.1 entry found
        · rename_i notEarlier notLater
          have same := Second.eq_of_not_before notEarlier notLater
          refine List.pairwise_cons.mpr ⟨?_, ascending.2⟩
          intro entry member
          simpa [same] using ascending.1 entry member

/-- Put a price into a series; it replaces the price of its second. -/
def insert
    (series : PriceSeries)
    (second : Second)
    (price : Decimal) :
    PriceSeries where
  entries := insertEntry second price series.entries
  ascending := ascending_insertEntry second price series.ascending

/-- The price at exactly the given second. -/
def get? (series : PriceSeries) (second : Second) : Option Decimal :=
  series.entries.lookup second

theorem lookup_entry
    (second : Second)
    (entry : Second × Decimal)
    (rest : List (Second × Decimal)) :
    (entry :: rest).lookup second =
      if second = entry.1 then some entry.2 else rest.lookup second := by
  rcases entry with ⟨first, price⟩
  by_cases same : second = first
  · simp [same]
  · have different : (second == first) = false :=
      beq_eq_false_iff_ne.mpr same
    simp only [List.lookup_cons, different, if_neg same]

theorem lookup_insertEntry
    (second other : Second)
    (price : Decimal)
    (entries : List (Second × Decimal)) :
    (insertEntry second price entries).lookup other =
      if other = second then some price else entries.lookup other := by
  induction entries with
  | nil =>
      simp [insertEntry, lookup_entry]
  | cons first rest inductionHypothesis =>
      unfold insertEntry
      split
      · simp [lookup_entry]
      · split
        · rename_i later
          have different : first.1 ≠ second := by
            intro same
            exact Second.before_irrefl second (same ▸ later)
          by_cases same : other = first.1
          · simp [lookup_entry, same, different]
          · simp [lookup_entry, same, inductionHypothesis]
        · rename_i notEarlier notLater
          have equal := Second.eq_of_not_before notEarlier notLater
          by_cases same : other = second <;>
            simp [lookup_entry, same, ← equal]

theorem get?_insert
    (series : PriceSeries)
    (second other : Second)
    (price : Decimal) :
    (series.insert second price).get? other =
      if other = second then some price else series.get? other :=
  lookup_insertEntry second other price series.entries

/-- The number of seconds that have a price. -/
def size (series : PriceSeries) : Nat :=
  series.entries.length

def isEmpty (series : PriceSeries) : Bool :=
  series.entries.isEmpty

/-- Put prices into a series in order; a later one replaces an earlier one. -/
def insertAll
    (series : PriceSeries)
    (prices : List (Second × Decimal)) :
    PriceSeries :=
  prices.foldl (fun total entry => total.insert entry.1 entry.2) series

/-- The series of prices inserted in order. -/
def ofList (prices : List (Second × Decimal)) : PriceSeries :=
  empty.insertAll prices

end PriceSeries

/--
The two series that returns are computed with: prices in rune and in dollars.
-/
structure PriceHistory where
  inRune : PriceSeries
  inUsd : PriceSeries
  deriving DecidableEq

namespace PriceHistory

/-- Split samples into the two series, in order. -/
def ofSamples (samples : List PriceSample) : PriceHistory where
  inRune :=
    PriceSeries.ofList
      (samples.map fun sample => (sample.second, sample.assetPrice))
  inUsd :=
    PriceSeries.ofList
      (samples.map fun sample => (sample.second, sample.assetPriceUsd))

end PriceHistory

end LiquidityReturns
