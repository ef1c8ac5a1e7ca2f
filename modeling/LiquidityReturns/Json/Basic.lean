import LiquidityReturns.Json.Number
import LiquidityReturns.Json.String

namespace LiquidityReturns

/-!
# JSON documents

A document keeps its fields in the order in which they were written, and its
numbers and field names as they were written.  Of a string it keeps the text,
which is missing when half of a surrogate pair stands alone.
-/

/-- A JSON document. -/
inductive Json where
  | null
  | bool (value : Bool)
  | number (value : JsonNumber)
  | string (value : String)
  | unpaired
  | array (items : List Json)
  | object (fields : List (JsonString × Json))
  deriving Repr, Inhabited

namespace Json

/-- The document of a string as written. -/
def ofString (written : JsonString) : Json :=
  match written.text? with
  | some text =>
      .string text
  | none =>
      .unpaired

def ofInt (integer : Int) : Json :=
  .number (JsonNumber.ofInt integer)

def ofNat (natural : Nat) : Json :=
  ofInt natural

/-- The document of an integer of 64 bits. -/
def ofInt64 (integer : Int64) : Json :=
  ofInt integer.toInt

/-- The object of some fields whose names are written plainly. -/
def record (fields : List (String × Json)) : Json :=
  .object (fields.map fun (name, value) => (.plain name, value))

/-- The document of an optional value: `null` when there is none. -/
def ofOption (toJson : α → Json) : Option α → Json
  | none =>
      .null
  | some value =>
      toJson value

def ofList (toJson : α → Json) (values : List α) : Json :=
  .array (values.map toJson)

/-- A field that is written only when it has a value. -/
def presentField
    (name : String)
    (toJson : α → Json) :
    Option α → List (String × Json)
  | none =>
      []
  | some value =>
      [(name, toJson value)]

def isNull : Json → Bool
  | .null =>
      true
  | _ =>
      false

/-- The text of a string that has one. -/
def string? : Json → Option String
  | .string value =>
      some value
  | _ =>
      none

def array? : Json → Option (List Json)
  | .array items =>
      some items
  | _ =>
      none

/-- A natural number of at most the given limit. -/
def nat? (limit : Nat) : Json → Option Nat
  | .number value =>
      value.toNat? limit
  | _ =>
      none

def int64? : Json → Option Int64
  | .number value =>
      value.toInt64?
  | _ =>
      none

/-- The field of an object; of several with one name, the last. -/
def field? (name : String) : Json → Option Json
  | .object fields =>
      (fields.reverse.find? fun field => field.1.text? == some name).map (·.2)
  | _ =>
      none

mutual

/-- The number of arrays and objects around the innermost value. -/
def depth : Json → Nat
  | .array items =>
      itemsDepth items + 1
  | .object fields =>
      fieldsDepth fields + 1
  | _ =>
      0

def itemsDepth : List Json → Nat
  | [] =>
      0
  | item :: rest =>
      max (depth item) (itemsDepth rest)

def fieldsDepth : List (JsonString × Json) → Nat
  | [] =>
      0
  | (_, value) :: rest =>
      max (depth value) (fieldsDepth rest)

end

mutual

/-- Whether every number of a document has a value and every string a text. -/
def isDefined : Json → Bool
  | .number value =>
      value.valueText?.isSome
  | .unpaired =>
      false
  | .array items =>
      itemsDefined items
  | .object fields =>
      fieldsDefined fields
  | _ =>
      true

/-- Whether every number and every string among items is defined. -/
def itemsDefined : List Json → Bool
  | [] =>
      true
  | item :: rest =>
      isDefined item && itemsDefined rest

/-- Whether every name, number and string among fields is defined. -/
def fieldsDefined : List (JsonString × Json) → Bool
  | [] =>
      true
  | (name, value) :: rest =>
      name.text?.isSome && isDefined value && fieldsDefined rest

end

end Json

end LiquidityReturns
