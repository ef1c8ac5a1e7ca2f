import LiquidityReturns.Codec.Pool

namespace LiquidityReturns

/-!
# Fields of Midgard's records

Midgard gives most numbers as strings and a few as numbers, so a numeric field
may be either, and blanks around it are ignored.  A field that is `null` counts
as missing.
-/

namespace Midgard

/-- Why a document is not the record that it should be. -/
inductive RecordError where
  | missingField (name : String)
  | wrongKind (name : String)
  | notDecimal (name : String) (failure : Decimal.ReadError)
  | notInteger (name : String) (failure : Text.IntegerError)
  | wrongPool
  | countTooLarge
  | noInterval
  deriving Repr, DecidableEq

namespace RecordError

/-- The wording of a record error. -/
def message : RecordError → String
  | .missingField name =>
      s!"Missing {name} field"
  | .wrongKind name =>
      s!"Invalid {name} field"
  | .notDecimal name failure =>
      s!"Invalid {name}: {failure.message}"
  | .notInteger name failure =>
      s!"Invalid {name}: {failure.message}"
  | .wrongPool =>
      "Invalid pool entry"
  | .countTooLarge =>
      "count out of range"
  | .noInterval =>
      "Empty depth history"

end RecordError

/-- A value, or the given error when there is none. -/
def orError (failure : RecordError) : Option α → Except RecordError α
  | none =>
      .error failure
  | some value =>
      .ok value

/-- A field that is neither missing nor `null`. -/
def present? (record : Json) (name : String) : Option Json :=
  (record.field? name).filter fun value => !value.isNull

def field (record : Json) (name : String) : Except RecordError Json :=
  orError (.missingField name) (present? record name)

/-- The text of a value that is a string or a number. -/
def numericText? : Json → Option String
  | .string text =>
      some text
  | .number number =>
      number.valueText?
  | _ =>
      none

def numericField
    (record : Json)
    (name : String) :
    Except RecordError String := do
  let value ← field record name
  orError (.wrongKind name) (numericText? value)

def decimalField
    (record : Json)
    (name : String) :
    Except RecordError Decimal := do
  let text ← numericField record name
  (Decimal.read text).mapError (.notDecimal name)

/-- A decimal number that is zero when it is missing. -/
def optionalDecimalField
    (record : Json)
    (name : String) :
    Except RecordError Decimal :=
  match present? record name with
  | none =>
      .ok .zero
  | some _ =>
      decimalField record name

def wholeField
    (record : Json)
    (name : String) :
    Except RecordError WholeAmount := do
  let text ← numericField record name
  (WholeAmount.read (Text.trim text)).mapError (.notInteger name)

def integerField
    (record : Json)
    (name : String) :
    Except RecordError Int64 := do
  let text ← numericField record name
  (Text.readInt64 (Text.trim text)).mapError (.notInteger name)

def textField (record : Json) (name : String) : Except RecordError String := do
  let value ← field record name
  orError (.wrongKind name) value.string?

def arrayField
    (record : Json)
    (name : String) :
    Except RecordError (List Json) := do
  let value ← field record name
  orError (.wrongKind name) value.array?

/-- The items of an array that may be missing, each read in order. -/
def optionalArrayField
    (record : Json)
    (name : String)
    (readItem : Json → Except RecordError α) :
    Except RecordError (Option (List α)) :=
  match present? record name with
  | none =>
      .ok none
  | some value => do
      let items ← orError (.wrongKind name) value.array?
      return some (← items.mapM readItem)

def optionalText? (record : Json) (name : String) : Option String := do
  (← record.field? name).string?

/-- An address without the blanks around it, unless nothing is left. -/
def optionalAddress? (record : Json) (name : String) : Option Address := do
  let text := Text.trim (← optionalText? record name)
  if text.isEmpty then none else return ⟨text⟩

end Midgard

end LiquidityReturns
