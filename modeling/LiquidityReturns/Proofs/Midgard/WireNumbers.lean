import Mathlib
import LiquidityReturns.Proofs.Json.BinaryNumbers
import LiquidityReturns.Proofs.Midgard.FieldLaws

namespace LiquidityReturns.Midgard

/-!
# Decimal fields written as strings and as numbers

A decimal field that is written as a string keeps its exact value.  Written as
a number it passes through binary64 unless it is an integer of 64 bits, so it
keeps fifteen written digits for certain, and never more than seventeen
significant ones.
-/

open Binary64

/--
The two readers of decimal fields: one that requires the field and one that
does not.
-/
def decimalReaders : List (Json → String → Except RecordError Decimal) :=
  [decimalField, optionalDecimalField]

variable
  {record : Json}
  {name : String}
  {read : Json → String → Except RecordError Decimal}

/-- Both readers read a field that is there from its text. -/
theorem read_eq_ok_iff
    (isReader : read ∈ decimalReaders)
    {value : Json}
    (found : record.field? name = some value)
    (notNull : value ≠ .null)
    {number : Decimal} :
    read record name = .ok number ↔
      ∃ text, HasText value text ∧ Decimal.read text = .ok number := by
  have required :
      decimalField record name = .ok number ↔
        ∃ text, HasText value text ∧ Decimal.read text = .ok number := by
    simp [decimalField_eq_ok_iff, HasField, found]
  simp only [decimalReaders, List.mem_cons, List.not_mem_nil,
    or_false] at isReader
  rcases isReader with rfl | rfl
  · exact required
  · have present := present?_eq_some_iff.mpr ⟨found, notNull⟩
    rw [optionalDecimalField, present]
    exact required

theorem hasText_number_iff {number : JsonNumber} {text : String} :
    HasText (.number number) text ↔ number.valueText? = some text := by
  rw [← numericText?_eq_some_iff, numericText?]

/-- An integer of 64 bits is taken to have the text that it is written with. -/
theorem valueText?_of_isMachineInteger
    {number : JsonNumber}
    (positional : number.IsPositional)
    (machine : number.isMachineInteger = true) :
    number.valueText? = some (String.ofList number.characters) := by
  have integral : number.fraction = [] := by
    unfold JsonNumber.isMachineInteger JsonNumber.plainInteger? at machine
    split at machine
    · contradiction
    · rename_i integer plain
      split at plain
      · rename_i whole
        exact List.isEmpty_iff.mp whole.1
      · contradiction
  unfold JsonNumber.valueText?
  rw [if_pos machine, JsonNumber.characters, integral, positional.noExponent]
  simp [JsonNumber.fractionCharacters, JsonNumber.exponentCharacters]

/--
A number on the wire that denotes a decimal number.  Its text is read as it is
written wherever it stands in a document.  A decimal field that holds the text
as a string has exactly its value.  A field that holds it as a number has the
same value if it is an integer of 64 bits, or if it is written with at most
fifteen digits, zeros in front apart, and at most twenty-two places.  It never
has the same value if it is no integer of 64 bits and has more than seventeen
significant digits; zeros at its end are not significant.
-/
theorem wire_numbers_keep_fifteen_digits
    (record : Json)
    (name : String)
    {number : JsonNumber}
    (positional : number.IsPositional)
    {decimal : Decimal}
    (exact : number.value = decimal.value)
    (isReader : read ∈ decimalReaders) :
    Json.Reads (.number number) ∧
    (record.field? name = some (.string (String.ofList number.characters)) →
      read record name = .ok decimal) ∧
    (record.field? name = some (.number number) →
      (number.isMachineInteger = true ∨
          number.numeral < 10 ^ 15 ∧ number.fraction.length ≤ 22 →
        read record name = .ok decimal) ∧
      (number.isMachineInteger = false →
        ¬ HasFewDigits decimal.value →
        read record name ≠ .ok decimal)) := by
  have written := JsonNumber.read_characters positional exact
  refine ⟨Json.reads_number positional, fun found => ?_,
    fun found => ⟨fun kept => ?_, fun notMachine many => ?_⟩⟩
  · rw [read_eq_ok_iff isReader found (by simp)]
    exact ⟨_, .string _, written⟩
  · rw [read_eq_ok_iff isReader found (by simp)]
    by_cases machine : number.isMachineInteger = true
    · exact ⟨_, .number (valueText?_of_isMachineInteger positional machine),
        written⟩
    · obtain ⟨short, few⟩ := kept.resolve_left machine
      obtain ⟨text, isText, accepted⟩ :=
        JsonNumber.exists_valueText?_of_short positional short few
          (Bool.eq_false_iff.mpr machine) exact
      exact ⟨text, .number isText, accepted⟩
  · rw [ne_eq, read_eq_ok_iff isReader found (by simp)]
    rintro ⟨text, isText, accepted⟩
    exact many (JsonNumber.hasFewDigits_of_valueText? notMachine
      (hasText_number_iff.mp isText) accepted)

/-- A price of nineteen significant digits, as it is written on the wire. -/
def Sample.longPrice : JsonNumber :=
  ⟨false, 0,
    [1, 2, 3, 4, 5, 6, 7, 8, 9, 0, 1, 2, 3, 4, 5, 6, 7, 8, 9], none⟩

/-- The price that is written. -/
def Sample.exactPrice : Decimal :=
  ⟨1234567890123456789, 19, by decide, by decide, .inr (by decide)⟩

/-- The price after it has passed through binary64. -/
def Sample.roundedPrice : Decimal :=
  ⟨12345678901234568, 17, by decide, by decide, .inr (by decide)⟩

theorem Sample.isPositional_longPrice : Sample.longPrice.IsPositional :=
  ⟨rfl, by decide⟩

theorem Sample.value_longPrice :
    Sample.longPrice.value = Sample.exactPrice.value := by
  decide +kernel

/--
A price of nineteen significant digits is kept as a string and loses two of
them as a number.
-/
theorem long_price_loses_digits :
    Sample.longPrice.IsPositional ∧
      Sample.longPrice.value = Sample.exactPrice.value ∧
      decimalField
          (.record [("assetPrice", .string "0.1234567890123456789")])
          "assetPrice" =
        .ok Sample.exactPrice ∧
      decimalField (.record [("assetPrice", .number Sample.longPrice)])
          "assetPrice" =
        .ok Sample.roundedPrice ∧
      Sample.roundedPrice ≠ Sample.exactPrice :=
  ⟨Sample.isPositional_longPrice, Sample.value_longPrice,
    by decide +kernel, by decide +kernel, by decide⟩

/-- A tenth, as it is written on the wire. -/
def Sample.tenth : JsonNumber :=
  ⟨false, 0, [1], none⟩

/--
The long price has too many significant digits to survive as a number, and a
tenth survives.
-/
theorem wire_numbers_keep_fifteen_digits_sample :
    decimalField
          (.record
            [("assetPrice",
              .string (String.ofList Sample.longPrice.characters))])
          "assetPrice" =
        .ok Sample.exactPrice ∧
      decimalField (.record [("assetPrice", .number Sample.longPrice)])
          "assetPrice" ≠
        .ok Sample.exactPrice ∧
      optionalDecimalField (.record [("runeAdded", .number Sample.tenth)])
          "runeAdded" =
        .ok ⟨1, 1, by decide, by decide, .inr (by decide)⟩ := by
  have required : decimalField ∈ decimalReaders := .head _
  have optional : optionalDecimalField ∈ decimalReaders := .tail _ (.head _)
  refine ⟨?_, ?_, ?_⟩
  · exact
      (wire_numbers_keep_fifteen_digits _ _ Sample.isPositional_longPrice
        Sample.value_longPrice required).2.1 rfl
  · exact
      ((wire_numbers_keep_fifteen_digits _ _ Sample.isPositional_longPrice
        Sample.value_longPrice required).2.2 rfl).2 (by decide)
        (not_hasFewDigits (by decide) (by decide))
  · exact
      ((wire_numbers_keep_fifteen_digits _ _
        (show Sample.tenth.IsPositional from ⟨rfl, by decide⟩)
        (by decide +kernel) optional).2.2 rfl).1
        (.inr ⟨by decide, by decide⟩)

end LiquidityReturns.Midgard
