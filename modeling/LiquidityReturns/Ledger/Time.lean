namespace LiquidityReturns

/-!
# Times of the ledger

The ledger dates actions in nanoseconds since the epoch, and prices are
sampled by the second.  An action falls into the second at or before its date,
also before the epoch.
-/

/-- A date of the ledger, in nanoseconds since the epoch. -/
structure Nanoseconds where
  count : Int64
  deriving Repr, DecidableEq

/-- A second since the epoch, as price samples are keyed by. -/
structure Second where
  count : Int64
  deriving Repr, DecidableEq

/-- The number of nanoseconds in a second. -/
def nanosecondsPerSecond : Int :=
  1000000000

namespace Nanoseconds

/-- The second in which a date falls. -/
def second (date : Nanoseconds) : Second where
  count := Int64.ofInt (date.count.toInt / nanosecondsPerSecond)

/--
The second of a date is the floor of its nanoseconds, and never wraps around.
-/
theorem toInt_second (date : Nanoseconds) :
    date.second.count.toInt = date.count.toInt / nanosecondsPerSecond := by
  have lower := date.count.le_toInt
  have upper := date.count.toInt_lt
  simp only [second, nanosecondsPerSecond]
  refine Int64.toInt_ofInt_of_le ?_ ?_ <;> omega

instance : ToString Nanoseconds :=
  ⟨fun date => toString date.count.toInt⟩

end Nanoseconds

namespace Second

/-- One second comes before another. -/
def before (left right : Second) : Prop :=
  left.count.toInt < right.count.toInt

instance (left right : Second) : Decidable (left.before right) :=
  inferInstanceAs (Decidable (left.count.toInt < right.count.toInt))

instance : ToString Second :=
  ⟨fun second => toString second.count.toInt⟩

theorem before_irrefl (second : Second) : ¬ second.before second := by
  unfold before
  omega

theorem before_trans
    {first second third : Second}
    (left : first.before second)
    (right : second.before third) :
    first.before third := by
  unfold before at *
  omega

theorem eq_of_not_before
    {left right : Second}
    (notLeft : ¬ left.before right)
    (notRight : ¬ right.before left) :
    left = right := by
  unfold before at *
  have same : left.count.toInt = right.count.toInt := by
    omega
  cases left
  cases right
  simpa using Int64.toInt_inj.mp same

/-- Insert a second into an ascending list, once. -/
def insertAscending (second : Second) : List Second → List Second
  | [] =>
      [second]
  | first :: rest =>
      if second.before first then
        second :: first :: rest
      else if first.before second then
        first :: insertAscending second rest
      else
        first :: rest

/-- The distinct seconds of a list in ascending order. -/
def distinctAscending (seconds : List Second) : List Second :=
  seconds.foldr insertAscending []

end Second

end LiquidityReturns
