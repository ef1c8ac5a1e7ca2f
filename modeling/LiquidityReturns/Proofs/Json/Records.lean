import Mathlib
import LiquidityReturns.Json.Record

namespace LiquidityReturns

/-!
# Records read back

A record whose fields are some of the known ones, each once, has these fields
when it is read, and a field that is looked up reads as what was written.  The
laws for lists, numbers and optional fields are stated for any kind of value.
-/

open List

namespace JsonNumber

/-- A plain integer has its own value. -/
theorem plainInteger?_ofInt (integer : Int) :
    (ofInt integer).plainInteger? = some integer := by
  simp only [plainInteger?, ofInt, List.isEmpty_nil, Option.isNone_none,
    and_self, if_true, decide_eq_true_eq, Option.some.injEq]
  split <;> omega

/-- A natural number within the limit reads back. -/
theorem toNat?_ofInt
    {limit natural : Nat}
    (bounded : natural ≤ limit) :
    (ofInt natural).toNat? limit = some natural := by
  have sign : (ofInt (natural : Int)).negative = false := by
    simp [ofInt]
  unfold toNat?
  rw [sign, plainInteger?_ofInt]
  simp [bounded]

/-- An integer of 64 bits reads back. -/
theorem toInt64?_ofInt (integer : Int64) :
    (ofInt integer.toInt).toInt64? = some integer := by
  have lower := integer.le_toInt
  have upper := integer.toInt_lt
  have notNegativeZero :
      (ofInt integer.toInt).isNegativeZero = false := by
    simp only [isNegativeZero, ofInt, Bool.and_eq_false_iff,
      decide_eq_false_iff_not, beq_eq_false_iff_ne]
    omega
  have inRange :
      -(Nat.pow 2 63 : Int) ≤ integer.toInt ∧
        integer.toInt < (Nat.pow 2 63 : Int) := by
    norm_num
    omega
  unfold toInt64?
  rw [notNegativeZero, plainInteger?_ofInt]
  simp only [Bool.false_eq_true, if_false]
  rw [if_pos inRange, Int64.ofInt_toInt]

end JsonNumber

namespace Json

variable {α : Type} {toJson : α → Json} {ofJson? : Json → Option α}

/-- A natural number within the limit reads back. -/
theorem nat?_ofNat
    {limit natural : Nat}
    (bounded : natural ≤ limit) :
    (ofNat natural).nat? limit = some natural :=
  JsonNumber.toNat?_ofInt bounded

/-- An integer of 64 bits reads back. -/
theorem int64?_ofInt64 (integer : Int64) :
    (ofInt64 integer).int64? = some integer :=
  JsonNumber.toInt64?_ofInt integer

/-- A list reads back when its members do. -/
theorem list?_ofList
    {values : List α}
    (reads : ∀ value ∈ values, ofJson? (toJson value) = some value) :
    list? ofJson? (ofList toJson values) = some values := by
  change (values.map toJson).mapM ofJson? = some values
  induction values with
  | nil =>
      rfl
  | cons first rest inductionHypothesis =>
      rw [List.forall_mem_cons] at reads
      rw [List.map_cons, List.mapM_cons, reads.1,
        inductionHypothesis reads.2]
      rfl

/-- A name without repetition occurs at most once. -/
theorem occursOnce_of_nodup
    {fields : List (String × Json)}
    (distinct : (fields.map Prod.fst).Nodup)
    (name : String) :
    occursOnce fields name = true := by
  have atMostOnce := List.nodup_iff_count_le_one.mp distinct name
  rw [List.count, List.countP_map, List.countP_eq_length_filter]
    at atMostOnce
  exact decide_eq_true atMostOnce

/--
A record has the fields that were written, if they are known and distinct.
-/
theorem record?_record
    {names : List String}
    {fields : List (String × Json)}
    (known : fields.map Prod.fst <+ names)
    (distinct : names.Nodup) :
    (record fields).record? names = some fields := by
  have once : names.all (occursOnce fields) = true :=
    List.all_eq_true.mpr fun name _ =>
      occursOnce_of_nodup (known.nodup distinct) name
  simp only [record, record?]
  rw [namedFields?_plain, Option.filter_some, if_pos once]

/-- Of distinct fields, the last one with a name is the only one. -/
theorem field?_record
    {fields : List (String × Json)}
    (distinct : (fields.map Prod.fst).Nodup)
    (name : String) :
    (record fields).field? name = fields.lookup name := by
  induction fields with
  | nil =>
      rfl
  | cons first rest inductionHypothesis =>
      rcases first with ⟨other, document⟩
      rw [List.map_cons, List.nodup_cons] at distinct
      have later := inductionHypothesis distinct.2
      simp only [record, field?] at later
      simp only [record, field?, List.map_cons, List.reverse_cons,
        List.find?_append, Option.map_or]
      rw [later]
      by_cases same : name = other
      · subst same
        have absent : rest.lookup name = none := by
          rw [List.lookup_eq_none_iff]
          intro field member
          have different : name ≠ field.1 := by
            rintro rfl
            exact distinct.1 (List.mem_map.mpr ⟨field, member, rfl⟩)
          simpa using different
        simp [absent, JsonString.text?]
      · have different : (some other == some name) = false := by
          simpa using Ne.symm same
        simp [JsonString.text?, different, List.lookup_cons,
          beq_eq_false_iff_ne.mpr same]

/-- The name of a field that may be left out. -/
theorem names_presentField (name : String) (value : Option α) :
    (presentField name toJson value).map Prod.fst <+ [name] := by
  cases value
  · exact List.nil_sublist _
  · exact List.Sublist.refl _

@[simp] theorem lookup_field
    (name other : String)
    (document : Json)
    (rest : List (String × Json)) :
    ((name, document) :: rest).lookup other =
      if other = name then some document else rest.lookup other := by
  by_cases same : other = name
  · simp [same]
  · simp [List.lookup_cons, beq_eq_false_iff_ne.mpr same, same]

@[simp] theorem lookup_presentField
    (name other : String)
    (value : Option α) :
    (presentField name toJson value).lookup other =
      if other = name then value.map toJson else none := by
  cases value with
  | none =>
      simp [presentField]
  | some present =>
      by_cases same : other = name <;> simp [presentField, same]

/-- A required field reads as the document that stands in it. -/
theorem required_of_lookup
    {fields : List (String × Json)}
    {name : String}
    {document : Json}
    (found : fields.lookup name = some document) :
    required fields name ofJson? = ofJson? document := by
  simp [required, found]

/-- What reads back is not taken for a missing value. -/
theorem isNull_of_reads
    {value : α}
    (strict : ofJson? .null = none)
    (reads : ofJson? (toJson value) = some value) :
    (toJson value).isNull = false := by
  unfold isNull
  split
  · rename_i null
    rw [null, strict] at reads
    contradiction
  · rfl

/-- An optional field that is left out when there is no value reads back. -/
theorem optional_of_lookup_map
    (toJson : α → Json)
    {fields : List (String × Json)}
    {name : String}
    {value : Option α}
    (found : fields.lookup name = value.map toJson)
    (strict : ofJson? .null = none)
    (reads : ∀ present ∈ value, ofJson? (toJson present) = some present) :
    optional fields name ofJson? = some value := by
  unfold optional
  cases value with
  | none =>
      rw [found]
      rfl
  | some present =>
      have back := reads present rfl
      rw [found, Option.map_some]
      simp [isNull_of_reads strict back, back]

/-- An optional field that is `null` when there is no value reads back. -/
theorem optional_of_lookup_ofOption
    (toJson : α → Json)
    {fields : List (String × Json)}
    {name : String}
    {value : Option α}
    (found : fields.lookup name = some (ofOption toJson value))
    (strict : ofJson? .null = none)
    (reads : ∀ present ∈ value, ofJson? (toJson present) = some present) :
    optional fields name ofJson? = some value := by
  cases value with
  | none =>
      unfold optional
      rw [found]
      rfl
  | some present =>
      exact optional_of_lookup_map toJson found strict reads

end Json

end LiquidityReturns
