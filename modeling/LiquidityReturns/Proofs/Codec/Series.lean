import Mathlib
import LiquidityReturns.Codec.Prices
import LiquidityReturns.Proofs.Codec.Ledger
import LiquidityReturns.Proofs.Text.Digits

namespace LiquidityReturns.PriceSeries

/-!
# Price series read back from their JSON form

The name of a field has the digits of its second without leading zeros, so it
reads back over the whole range of 64 bits.  Entries that are inserted in
ascending order stay in that order.
-/

open Text

/--
The digits of a number have no leading zero, unless they are a zero alone.
-/
theorem plainMagnitude?_digits (number : Nat) :
    plainMagnitude? (digits number) = some number := by
  have value := numeral?_digits number
  rcases Nat.eq_zero_or_pos number with rfl | positive
  · rfl
  · have leading := head?_digits_ne_zero positive
    unfold plainMagnitude?
    split
    · rename_i shape
      rw [shape] at leading
      exact (leading rfl).elim
    · exact value

/-- The name of a field reads as the second it was written for. -/
theorem secondOfKey?_keyOfSecond (second : Second) :
    secondOfKey? (keyOfSecond second) = some second := by
  have lower := second.count.le_toInt
  have upper := second.count.toInt_lt
  have inRange :
      -(Nat.pow 2 63 : Int) ≤ second.count.toInt ∧
        second.count.toInt < (Nat.pow 2 63 : Int) := by
    norm_num
    omega
  have magnitude := plainMagnitude?_digits second.count.toInt.natAbs
  unfold secondOfKey? keyOfSecond signed
  rw [String.toList_ofList]
  split_ifs with negative
  · have positive : 0 < second.count.toInt.natAbs := by
      omega
    have restored :
        -(second.count.toInt.natAbs : Int) = second.count.toInt := by
      omega
    simp only [magnitude, Option.filter_some, positive, decide_true,
      if_true, Option.bind_eq_bind, Option.bind_some, Option.pure_def,
      Option.map_some, restored]
    rw [if_pos inRange, Int64.ofInt_toInt]
  · obtain ⟨first, rest, shape, digit⟩ :=
      exists_first_digit second.count.toInt.natAbs
    have restored :
        (second.count.toInt.natAbs : Int) = second.count.toInt := by
      omega
    rw [shape] at magnitude ⊢
    split
    · rename_i minus
      rw [(List.cons.inj minus).1] at digit
      contradiction
    · simp only [magnitude, Option.bind_eq_bind, Option.bind_some,
        Option.pure_def, Option.map_some, restored]
      rw [if_pos inRange, Int64.ofInt_toInt]

/-- A field of a series reads as the entry it was written for. -/
theorem entryOfField?_fieldOfEntry (entry : Second × Decimal) :
    entryOfField? (.plain (keyOfSecond entry.1), entry.2.toJson) =
      some entry := by
  unfold entryOfField?
  simp [JsonString.plainText?, secondOfKey?_keyOfSecond,
    Decimal.ofJson?_toJson]

/-- A price of a second after all others is put at the end. -/
theorem insertEntry_of_latest
    {second : Second}
    {entries : List (Second × Decimal)}
    (latest : ∀ entry ∈ entries, entry.1.before second)
    (price : Decimal) :
    insertEntry second price entries = entries ++ [(second, price)] := by
  induction entries with
  | nil =>
      rfl
  | cons first rest inductionHypothesis =>
      rw [List.forall_mem_cons] at latest
      have notEarlier : ¬ second.before first.1 := fun earlier =>
        Second.before_irrefl second
          (Second.before_trans earlier latest.1)
      rw [insertEntry, if_neg notEarlier, if_pos latest.1,
        inductionHypothesis latest.2, List.cons_append]

/-- Entries in ascending order are kept as they are. -/
theorem entries_ofList
    {entries : List (Second × Decimal)}
    (ascending :
      entries.Pairwise fun left right => left.1.before right.1) :
    (ofList entries).entries = entries := by
  induction entries using List.reverseRecOn with
  | nil =>
      rfl
  | append_singleton earlier last inductionHypothesis =>
      rw [List.pairwise_append] at ascending
      obtain ⟨earlierAscending, _, latest⟩ := ascending
      have inserted :
          ofList (earlier ++ [last]) =
            (ofList earlier).insert last.1 last.2 := by
        simp [ofList, insertAll, List.foldl_append]
      rw [inserted]
      simp only [insert]
      rw [inductionHypothesis earlierAscending, insertEntry_of_latest]
      exact fun entry member => latest entry member last (by simp)

/-- The name of a field needs no escape. -/
theorem unescaped_keyOfSecond (second : Second) :
    JsonString.Unescaped (.plain (keyOfSecond second)) := by
  intro character member
  unfold keyOfSecond signed at member
  rw [String.toList_ofList] at member
  split at member
  · rcases List.mem_cons.mp member with rfl | digit
    · rfl
    · exact Json.escaped_of_isDigit (isDigit_of_mem_digits digit)
  · exact Json.escaped_of_isDigit (isDigit_of_mem_digits member)

/-- A series is written as a plain document. -/
theorem plain_toJson (series : PriceSeries) : series.toJson.Plain := by
  refine Json.plain_record _ (List.Subset.refl _) ?_ ?_
  · rw [List.map_map]
    intro name member
    obtain ⟨entry, _, rfl⟩ := List.mem_map.mp member
    exact unescaped_keyOfSecond entry.1
  · intro field member
    obtain ⟨entry, _, rfl⟩ := List.mem_map.mp member
    exact entry.2.plain_toJson

/-- A series reads back. -/
theorem ofJson?_toJson (series : PriceSeries) :
    ofJson? series.toJson = some series := by
  have fields :
      ((series.entries.map fieldOfEntry).map fun field =>
        (JsonString.plain field.1, field.2)).mapM entryOfField? =
          some series.entries := by
    induction series.entries with
    | nil =>
        rfl
    | cons entry rest inductionHypothesis =>
        rw [List.map_cons, List.map_cons, List.mapM_cons,
          inductionHypothesis]
        simp only [fieldOfEntry, entryOfField?_fieldOfEntry]
        rfl
  have same : ofList series.entries = series := by
    have entries := entries_ofList series.ascending
    cases series
    cases rebuilt : ofList _
    simp_all
  calc
    ofJson? series.toJson =
        (some series.entries).map ofList :=
      congrArg (Option.map ofList) fields
    _ = some series := by
      rw [Option.map_some, same]

end LiquidityReturns.PriceSeries
