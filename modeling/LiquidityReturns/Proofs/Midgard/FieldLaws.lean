import Mathlib
import LiquidityReturns.Midgard.Records
import LiquidityReturns.Proofs.Outcome
import LiquidityReturns.Proofs.Text.Integer

namespace LiquidityReturns

/-!
# What each field reader accepts

A reader of one field succeeds exactly on the fields of its kind.  The kinds
are stated on documents alone, so that the grammar of a record never mentions
the readers that it is compared with.
-/

namespace WholeAmount

/-- A text reads as a whole amount when it is a literal below `2 ^ 128`. -/
theorem read_eq_ok_iff {text : String} {amount : WholeAmount} :
    read text = .ok amount ↔
      Text.NaturalLiteral text.toList amount.val := by
  have bounded : amount.val ≤ Nat.pow 2 128 - 1 :=
    Nat.le_sub_one_of_lt amount.isLt
  rw [← and_iff_left (a := Text.NaturalLiteral _ _) bounded,
    ← Text.readNat_eq_ok_iff]
  unfold read
  split
  · rename_i failure failed
    rw [failed]
    simp
  · rename_i number accepted
    simp only [accepted, Except.ok.injEq, Fin.ext_iff]

end WholeAmount

namespace Midgard

/-- A record has a field with a value as described. -/
def HasField
    (record : Json)
    (name : String)
    (described : Json → Prop) : Prop :=
  ∃ value, record.field? name = some value ∧ described value

/-- A record has no such field, or it is `null`. -/
def LacksField (record : Json) (name : String) : Prop :=
  ∀ value, record.field? name = some value → value = .null

/-- A string, or a number that is taken to have a text. -/
inductive HasText : Json → String → Prop where
  | string (text : String) :
      HasText (.string text) text
  | number
      {number : JsonNumber}
      {text : String}
      (written : number.valueText? = some text) :
      HasText (.number number) text

/-- An array of items as described. -/
def IsArrayOf (described : Json → Prop) (value : Json) : Prop :=
  ∃ items, value = .array items ∧ ∀ item ∈ items, described item

/-- An array whose items denote some values, one each and in order. -/
def DenotesList
    {α : Type}
    (denotes : Json → α → Prop)
    (value : Json)
    (values : List α) :
    Prop :=
  ∃ items, value = .array items ∧ List.Forall₂ denotes items values

/-- A list that is absent when the field is, and otherwise is denoted by it. -/
inductive DenotesOptional
    {α : Type}
    (denotes : Json → α → Prop)
    (record : Json)
    (name : String) :
    Option (List α) → Prop where
  | missing (lacks : LacksField record name) :
      DenotesOptional denotes record name none
  | present
      {values : List α}
      (has : HasField record name (DenotesList denotes · values)) :
      DenotesOptional denotes record name (some values)

variable {α : Type} {record : Json} {name : String}

/-- Every item has a value of its own when each of them has some value. -/
theorem exists_forall₂_iff
    {denotes : Json → α → Prop}
    {items : List Json} :
    (∃ values, List.Forall₂ denotes items values) ↔
      ∀ item ∈ items, ∃ value, denotes item value := by
  induction items with
  | nil =>
      simp
  | cons first rest inductionHypothesis =>
      rw [List.forall_mem_cons, ← inductionHypothesis]
      simp only [List.forall₂_cons_left_iff]
      constructor
      · rintro ⟨_, value, values, denoted, later, rfl⟩
        exact ⟨⟨value, denoted⟩, values, later⟩
      · rintro ⟨⟨value, denoted⟩, values, later⟩
        exact ⟨value :: values, value, values, denoted, later, rfl⟩

/-- An array denotes a list when each of its items denotes something. -/
theorem exists_denotesList_iff
    {denotes : Json → α → Prop}
    {described : Json → Prop}
    (each : ∀ item, (∃ value, denotes item value) ↔ described item)
    {value : Json} :
    (∃ values, DenotesList denotes value values) ↔
      IsArrayOf described value := by
  simp only [DenotesList, IsArrayOf, ← each, ← exists_forall₂_iff]
  constructor
  · rintro ⟨values, items, array, denoted⟩
    exact ⟨items, array, values, denoted⟩
  · rintro ⟨items, array, values, denoted⟩
    exact ⟨values, items, array, denoted⟩

/-- A field has some reading when its value has one. -/
theorem exists_hasField_iff
    {denotes : Json → α → Prop}
    {described : Json → Prop}
    (each : ∀ value, (∃ part, denotes value part) ↔ described value) :
    (∃ part, HasField record name (denotes · part)) ↔
      HasField record name described := by
  simp only [HasField, ← each]
  constructor
  · rintro ⟨part, value, found, denoted⟩
    exact ⟨value, found, part, denoted⟩
  · rintro ⟨value, found, part, denoted⟩
    exact ⟨part, value, found, denoted⟩

theorem exists_denotesOptional_iff
    {denotes : Json → α → Prop}
    {described : Json → Prop}
    (each : ∀ item, (∃ value, denotes item value) ↔ described item) :
    (∃ values?, DenotesOptional denotes record name values?) ↔
      LacksField record name ∨
        HasField record name (IsArrayOf described) := by
  rw [← exists_hasField_iff fun _ => exists_denotesList_iff each]
  constructor
  · rintro ⟨_, lacks | has⟩
    · exact .inl lacks
    · exact .inr ⟨_, has⟩
  · rintro (lacks | ⟨values, has⟩)
    · exact ⟨none, .missing lacks⟩
    · exact ⟨some values, .present has⟩

theorem orError_eq_ok_iff
    {failure : RecordError}
    {value? : Option α}
    {value : α} :
    orError failure value? = .ok value ↔ value? = some value := by
  cases value? <;> simp [orError]

theorem isNull_eq_false_iff {value : Json} :
    value.isNull = false ↔ value ≠ .null := by
  cases value <;> simp [Json.isNull]

theorem present?_eq_some_iff {value : Json} :
    present? record name = some value ↔
      record.field? name = some value ∧ value ≠ .null := by
  rw [present?, Option.filter_eq_some_iff, Bool.not_eq_true',
    isNull_eq_false_iff]

theorem present?_eq_none_iff :
    present? record name = none ↔ LacksField record name := by
  rw [Option.eq_none_iff_forall_ne_some]
  simp only [ne_eq, present?_eq_some_iff, not_and, not_not, LacksField]

/-- The value of a field is read when it is found and not `null`. -/
theorem field_eq_ok_iff {value : Json} :
    field record name = .ok value ↔
      record.field? name = some value ∧ value ≠ .null := by
  rw [field, orError_eq_ok_iff, present?_eq_some_iff]

/-- A field is read further when it has a value from which that is possible. -/
theorem field_bind_orError_eq_ok_iff
    {part? : Json → Option α}
    {failure : RecordError}
    {part : α}
    (notNull : part? .null = none) :
    (field record name >>= fun value => orError failure (part? value)) =
        .ok part ↔
      HasField record name fun value => part? value = some part := by
  rw [Outcome.bind_eq_ok_iff]
  refine exists_congr fun value => ?_
  rw [field_eq_ok_iff, orError_eq_ok_iff, and_assoc]
  refine and_congr_right fun _ => and_iff_right_of_imp ?_
  rintro found rfl
  rw [notNull] at found
  contradiction

theorem string?_eq_some_iff {value : Json} {text : String} :
    value.string? = some text ↔ value = .string text := by
  cases value <;> simp [Json.string?]

theorem array?_eq_some_iff {value : Json} {items : List Json} :
    value.array? = some items ↔ value = .array items := by
  cases value <;> simp [Json.array?]

theorem textField_eq_ok_iff {text : String} :
    textField record name = .ok text ↔
      record.field? name = some (.string text) := by
  rw [textField, field_bind_orError_eq_ok_iff rfl]
  simp [HasField, string?_eq_some_iff]

theorem arrayField_eq_ok_iff {items : List Json} :
    arrayField record name = .ok items ↔
      record.field? name = some (.array items) := by
  rw [arrayField, field_bind_orError_eq_ok_iff rfl]
  simp [HasField, array?_eq_some_iff]

theorem numericText?_eq_some_iff {value : Json} {text : String} :
    numericText? value = some text ↔ HasText value text := by
  constructor
  · intro written
    cases value with
    | string other =>
        cases written
        exact .string text
    | number number =>
        exact .number written
    | _ =>
        contradiction
  · rintro (_ | written)
    · rfl
    · exact written

theorem numericField_eq_ok_iff {text : String} :
    numericField record name = .ok text ↔
      HasField record name (HasText · text) := by
  rw [numericField, field_bind_orError_eq_ok_iff rfl]
  simp only [numericText?_eq_some_iff]

/-- A numeric field is read further when its text can be. -/
theorem numericField_bind_eq_ok_iff
    {ε : Type}
    {read : String → Except ε α}
    {restate : ε → RecordError}
    {number : α} :
    (numericField record name >>= fun text =>
        (read text).mapError restate) = .ok number ↔
      HasField record name fun value =>
        ∃ text, HasText value text ∧ read text = .ok number := by
  simp only [Outcome.bind_eq_ok_iff, numericField_eq_ok_iff,
    Outcome.mapError_eq_ok_iff, HasField]
  constructor
  · rintro ⟨text, ⟨value, found, written⟩, accepted⟩
    exact ⟨value, found, text, written, accepted⟩
  · rintro ⟨value, found, text, written, accepted⟩
    exact ⟨text, ⟨value, found, written⟩, accepted⟩

theorem decimalField_eq_ok_iff {number : Decimal} :
    decimalField record name = .ok number ↔
      HasField record name fun value =>
        ∃ text, HasText value text ∧ Decimal.read text = .ok number :=
  numericField_bind_eq_ok_iff

theorem integerField_eq_ok_iff {integer : Int64} :
    integerField record name = .ok integer ↔
      HasField record name fun value =>
        ∃ text, HasText value text ∧
          Text.IntegerLiteral (Text.trim text).toList integer.toInt := by
  simp only [← Text.readInt64_eq_ok_iff]
  exact numericField_bind_eq_ok_iff

theorem wholeField_eq_ok_iff {amount : WholeAmount} :
    wholeField record name = .ok amount ↔
      HasField record name fun value =>
        ∃ text, HasText value text ∧
          Text.NaturalLiteral (Text.trim text).toList amount.val := by
  simp only [← WholeAmount.read_eq_ok_iff]
  exact numericField_bind_eq_ok_iff

/-- A count is read when it is the literal of a number below `2 ^ 64`. -/
theorem readCount_eq_ok_iff {count : Nat} :
    readCount record = .ok count ↔
      count < 2 ^ 64 ∧
        HasField record "count" fun value =>
          ∃ text, HasText value text ∧
            Text.NaturalLiteral (Text.trim text).toList count := by
  rw [readCount, Outcome.bind_eq_ok_iff]
  constructor
  · rintro ⟨amount, accepted, checked⟩
    split at checked
    · rename_i small
      cases checked
      exact ⟨small, wholeField_eq_ok_iff.mp accepted⟩
    · contradiction
  · rintro ⟨small, written⟩
    have bounded : count < Nat.pow 2 128 := by
      simp only [Nat.pow_eq]
      omega
    refine ⟨⟨count, bounded⟩, wholeField_eq_ok_iff.mpr written, ?_⟩
    exact if_pos small

/-- A list that may be missing is read from an array, or else it is missing. -/
theorem optionalArrayField_eq_ok_iff
    {readItem : Json → Except RecordError α}
    {values? : Option (List α)} :
    optionalArrayField record name readItem = .ok values? ↔
      DenotesOptional (fun item read => readItem item = .ok read)
        record name values? := by
  unfold optionalArrayField
  split
  · rename_i lacks
    rw [present?_eq_none_iff] at lacks
    constructor
    · rintro ⟨⟩
      exact .missing lacks
    · rintro (_ | ⟨_, found, items, rfl, _⟩)
      · rfl
      · exact absurd (lacks _ found) (by simp)
  · rename_i value found
    obtain ⟨found, notNull⟩ := present?_eq_some_iff.mp found
    simp only [Outcome.bind_eq_ok_iff, orError_eq_ok_iff,
      array?_eq_some_iff, Outcome.mapM_eq_ok_iff, Outcome.pure_eq_ok,
      Except.ok.injEq]
    constructor
    · rintro ⟨items, array, values, read, rfl⟩
      exact .present ⟨value, found, items, array, read⟩
    · rintro (lacks | ⟨other, same, items, array, read⟩)
      · exact absurd (lacks value found) notNull
      · rw [found, Option.some.injEq] at same
        exact ⟨items, same.trans array, _, read, rfl⟩

theorem optionalText?_eq_some_iff {text : String} :
    optionalText? record name = some text ↔
      record.field? name = some (.string text) := by
  simp [optionalText?, Option.bind_eq_some_iff, string?_eq_some_iff]

/-- An address is the text of a field without blanks, when something is left. -/
theorem optionalAddress?_eq_some_iff {address : Address} :
    optionalAddress? record name = some address ↔
      ∃ text, record.field? name = some (.string text) ∧
        Text.trim text = address.text ∧ address.text ≠ "" := by
  simp only [optionalAddress?, Option.bind_eq_bind, Option.bind_eq_some_iff,
    optionalText?_eq_some_iff]
  refine exists_congr fun text => and_congr_right fun _ => ?_
  split
  · rename_i empty
    rw [String.isEmpty_iff] at empty
    simp only [reduceCtorEq, false_iff, not_and, not_not]
    exact fun same => same.symm.trans empty
  · rename_i notEmpty
    rw [String.isEmpty_iff] at notEmpty
    constructor
    · rintro ⟨⟩
      exact ⟨rfl, notEmpty⟩
    · rintro ⟨same, _⟩
      exact congrArg (fun text => some (Address.mk text)) same

/--
A height is read from the literal of an integer of 64 bits, without blanks.
-/
theorem height?_eq_some_iff {height : Int64} :
    height? record = some height ↔
      HasField record "height" fun value =>
        ∃ text, HasText value text ∧
          Text.IntegerLiteral text.toList height.toInt := by
  simp only [height?, Option.bind_eq_bind, Option.bind_eq_some_iff,
    numericText?_eq_some_iff, HasField, ← Text.readInt64_eq_ok_iff]
  refine exists_congr fun value => and_congr_right fun _ =>
    exists_congr fun text => and_congr_right fun _ => ?_
  cases Text.readInt64 text <;> simp [Except.toOption]

end Midgard

end LiquidityReturns
