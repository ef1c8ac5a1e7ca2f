import LiquidityReturns.Json.Basic

namespace LiquidityReturns

/-!
# Records in JSON

A record is an object with known field names, each at most once; other fields
are ignored, whatever their values, but every name must have a text.  It may
also be an array of its fields in order, where trailing fields may be missing.
-/

namespace Json

/-- Whether a name occurs at most once among fields. -/
def occursOnce (fields : List (String × Json)) (name : String) : Bool :=
  (fields.filter fun field => field.1 == name).length ≤ 1

/-- A field by the text of its name, if the name has one. -/
def namedField? (field : JsonString × Json) : Option (String × Json) :=
  field.1.text?.map fun name => (name, field.2)

/-- The fields by the texts of their names, if every name has one. -/
def namedFields?
    (fields : List (JsonString × Json)) :
    Option (List (String × Json)) :=
  fields.mapM namedField?

theorem namedFields?_plain (fields : List (String × Json)) :
    namedFields? (fields.map fun (name, value) => (.plain name, value)) =
      some fields := by
  induction fields with
  | nil =>
      rfl
  | cons field rest inductionHypothesis =>
      unfold namedFields? at *
      rw [List.map_cons, List.mapM_cons, inductionHypothesis]
      rfl

/-- The named fields of a record, given as an object or as an array. -/
def record? (names : List String) : Json → Option (List (String × Json))
  | .object fields =>
      (namedFields? fields).filter fun named => names.all (occursOnce named)
  | .array items =>
      if items.length ≤ names.length then some (names.zip items) else none
  | _ =>
      none

/-- A field that the record must have. -/
def required
    (fields : List (String × Json))
    (name : String)
    (ofJson? : Json → Option α) :
    Option α := do
  ofJson? (← fields.lookup name)

/-- A field that may be missing or `null`. -/
def optional
    (fields : List (String × Json))
    (name : String)
    (ofJson? : Json → Option α) :
    Option (Option α) :=
  match fields.lookup name with
  | none =>
      some none
  | some value =>
      if value.isNull then some none else (ofJson? value).map some

def list?
    (ofJson? : Json → Option α)
    (document : Json) :
    Option (List α) := do
  (← document.array?).mapM ofJson?

end Json

end LiquidityReturns
