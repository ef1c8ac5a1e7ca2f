import Mathlib
import LiquidityReturns.Proofs.Json.Strings
import LiquidityReturns.Proofs.Text.Digits

namespace LiquidityReturns

/-!
# Documents read back from their text

The codecs write documents whose numbers are plain integers and whose names
need no escape.  The text of such a document is read as the document: each
kind of value is read from its own characters whatever follows it, and twice
the length of the text bounds the steps of the reader.
-/

open Text

namespace JsonNumber

/--
Whether a number is written as an integer, without a point and an exponent.
-/
def IsPlain (number : JsonNumber) : Prop :=
  number.fraction = [] ∧ number.exponent = none

theorem isPlain_ofInt (integer : Int) : (ofInt integer).IsPlain :=
  ⟨rfl, rfl⟩

/-- A number that is written without an exponent. -/
structure IsPositional (number : JsonNumber) : Prop where
  noExponent : number.exponent = none
  isDigit : ∀ digit ∈ number.fraction, digit < 10

theorem IsPlain.isPositional
    {number : JsonNumber}
    (integral : number.IsPlain) :
    number.IsPositional where
  noExponent := integral.2
  isDigit := by
    simp [integral.1]

end JsonNumber

namespace JsonString

/-- Whether a string is written as it is. -/
def Unescaped : JsonString → Prop
  | .plain text =>
      ∀ character ∈ text.toList, Json.escaped character = [character]
  | .escaped _ =>
      False

instance (text : String) : Decidable (Unescaped (.plain text)) :=
  inferInstanceAs
    (Decidable (∀ character ∈ text.toList,
      Json.escaped character = [character]))

end JsonString

namespace Json

/--
A document whose numbers are plain integers and whose names need no escape.
-/
inductive Plain : Json → Prop where
  | null :
      Plain .null
  | bool (value : Bool) :
      Plain (.bool value)
  | number
      (value : JsonNumber)
      (integral : value.IsPlain) :
      Plain (.number value)
  | string (value : String) :
      Plain (.string value)
  | array
      (items : List Json)
      (plain : ∀ item ∈ items, Plain item) :
      Plain (.array items)
  | object
      (fields : List (JsonString × Json))
      (named : ∀ field ∈ fields, field.1.Unescaped)
      (plain : ∀ field ∈ fields, Plain field.2) :
      Plain (.object fields)

/-- What may follow a value: nothing, or the character that ends it. -/
def Ended (rest : List Char) : Prop :=
  ∀ first ∈ rest.head?, first = ',' ∨ first = ']' ∨ first = '\x7d'

theorem isDigit_eq_false_of_ended
    {rest : List Char}
    (ended : Ended rest) :
    ∀ first ∈ rest.head?, isDigit first = false := by
  intro first isFirst
  rcases ended first isFirst with rfl | rfl | rfl <;> rfl

/-- Digits are split off in front of what follows them. -/
theorem splitDigits_append
    {digits rest : List Char}
    (allDigits : ∀ character ∈ digits, isDigit character = true)
    (stops : ∀ first ∈ rest.head?, isDigit first = false) :
    splitDigits (digits ++ rest) = (digits, rest) := by
  unfold splitDigits
  rw [List.takeWhile_append_of_pos allDigits,
    List.dropWhile_append_of_pos allDigits]
  cases rest with
  | nil =>
      simp
  | cons first later =>
      simp [stops first rfl]

theorem readIntegerPart_digits
    (number : Nat)
    {rest : List Char}
    (stops : ∀ first ∈ rest.head?, isDigit first = false) :
    readIntegerPart (digits number ++ rest) = some (number, rest) := by
  have split : splitDigits (digits number ++ rest) = (digits number, rest) :=
    splitDigits_append (fun _ member => isDigit_of_mem_digits member) stops
  have value : numeral (digitValues (digits number)) = number :=
    (numeral_values _).trans Nat.ofDigitChars_ten_toDigits
  rcases Nat.eq_zero_or_pos number with rfl | positive
  · rfl
  · have leading := head?_digits_ne_zero positive
    obtain ⟨first, later, shape, _⟩ := exists_first_digit number
    rw [shape] at leading split value ⊢
    unfold readIntegerPart
    split
    · rename_i zero
      exact (leading (congrArg some (List.cons.inj zero).1)).elim
    · rw [split]
      exact congrArg (fun number => some (number, rest)) value

theorem isDigit_digitChar : ∀ digit < 10, isDigit digit.digitChar = true := by
  decide

theorem digitValue_digitChar :
    ∀ digit < 10, digit.digitChar.toNat - '0'.toNat = digit := by
  decide

/-- The digits after a point are read in front of what follows them. -/
theorem readFraction_characters
    {fraction : List Nat}
    (small : ∀ digit ∈ fraction, digit < 10)
    {rest : List Char}
    (ended : Ended rest) :
    readFraction (JsonNumber.fractionCharacters fraction ++ rest) =
      some (fraction, rest) := by
  cases fraction with
  | nil =>
      cases rest with
      | nil =>
          rfl
      | cons first later =>
          rcases ended first rfl with rfl | rfl | rfl <;> rfl
  | cons digit later =>
      have allDigits :
          ∀ character ∈ (digit :: later).map Nat.digitChar,
            isDigit character = true :=
        List.forall_mem_map.mpr fun digit member =>
          isDigit_digitChar digit (small digit member)
      have values :
          digitValues ((digit :: later).map Nat.digitChar) =
            digit :: later := by
        unfold digitValues
        rw [List.map_map]
        refine (List.map_congr_left fun digit member => ?_).trans
          (List.map_id _)
        exact digitValue_digitChar digit (small digit member)
      rw [JsonNumber.fractionCharacters, List.cons_append, readFraction,
        splitDigits_append allDigits (isDigit_eq_false_of_ended ended)]
      · exact congrArg (fun fraction => some (fraction, rest)) values
      · simp

theorem readExponent_of_ended
    {rest : List Char}
    (ended : Ended rest) :
    readExponent rest = some (none, rest) := by
  cases rest with
  | nil =>
      rfl
  | cons first later =>
      rcases ended first rfl with rfl | rfl | rfl <;> rfl

theorem readMagnitude_characters
    {number : JsonNumber}
    (positional : number.IsPositional)
    {rest : List Char}
    (ended : Ended rest) :
    readMagnitude number.negative
        (digits number.integer ++
          (JsonNumber.fractionCharacters number.fraction ++ rest)) =
      some (number, rest) := by
  have stops :
      ∀ first ∈
          (JsonNumber.fractionCharacters number.fraction ++ rest).head?,
        isDigit first = false := by
    cases number.fraction with
    | nil =>
        exact isDigit_eq_false_of_ended ended
    | cons digit later =>
        rintro first ⟨⟩
        rfl
  unfold readMagnitude
  rw [readIntegerPart_digits number.integer stops]
  simp only [Option.bind_eq_bind, Option.bind_some,
    readFraction_characters positional.isDigit ended,
    readExponent_of_ended ended, ← positional.noExponent]
  rfl

/-- A number without an exponent is read in front of what follows it. -/
theorem readNumber_characters
    {number : JsonNumber}
    (positional : number.IsPositional)
    {rest : List Char}
    (ended : Ended rest) :
    readNumber (number.characters ++ rest) = some (number, rest) := by
  have magnitude := readMagnitude_characters positional ended
  simp only [JsonNumber.characters, positional.noExponent,
    JsonNumber.exponentCharacters, List.append_nil, List.append_assoc]
  cases sign : number.negative with
  | true =>
      rw [sign] at magnitude
      exact magnitude
  | false =>
      rw [sign] at magnitude
      obtain ⟨first, later, shape, digit⟩ :=
        exists_first_digit number.integer
      simp only [Bool.false_eq_true, if_false, List.nil_append]
      rw [shape] at magnitude ⊢
      unfold readNumber
      split
      · rename_i minus
        rw [(List.cons.inj minus).1] at digit
        contradiction
      · exact magnitude

/-- A character that begins none of the values but a number. -/
def BeginsNumber (first : Char) : Prop :=
  first = '-' ∨ isDigit first = true

theorem isSeparator_of_beginsNumber
    {first : Char}
    (begins : BeginsNumber first) :
    isSeparator first = false := by
  rcases begins with rfl | digit
  · rfl
  · refine decide_eq_false ?_
    rintro (rfl | rfl | rfl | rfl) <;> contradiction

/-- A text that begins like a number is read as one. -/
theorem readValue_of_beginsNumber
    {first : Char}
    (begins : BeginsNumber first)
    (steps : Nat)
    (later : List Char) :
    readValue (steps + 1) (first :: later) =
      (readNumber (first :: later)).map
        fun read => (.number read.1, read.2) := by
  have kept : skip (first :: later) = first :: later :=
    List.dropWhile_cons_of_neg
      (by simp [isSeparator_of_beginsNumber begins])
  rw [readValue, kept]
  split
  case h_7 =>
    cases readNumber (first :: later) <;> rfl
  all_goals
    rename_i shape
    obtain ⟨rfl, -⟩ := List.cons.inj shape
    rcases begins with minus | digit <;> contradiction

/-- A number begins with a sign or a digit. -/
theorem exists_first_number (number : JsonNumber) :
    ∃ first later,
      number.characters = first :: later ∧ BeginsNumber first := by
  unfold JsonNumber.characters
  cases number.negative with
  | true =>
      exact ⟨'-', _, rfl, .inl rfl⟩
  | false =>
      obtain ⟨first, later, shape, digit⟩ :=
        exists_first_digit number.integer
      rw [shape]
      exact ⟨first, _, rfl, .inr digit⟩

/--
The text of a document is read as the document, whatever follows it, in two
steps for each of its characters.

An array or an object leaves one step less to its members, and each member
leaves one step less to the next, but a bracket or a comma stands in front of
every member.
-/
def Reads (document : Json) : Prop :=
  ∀ steps rest,
    2 * document.characters.length ≤ steps →
      Ended rest →
        readValue steps (document.characters ++ rest) = some (document, rest)

/--
The text of a document begins with a character that is no blank and closes
nothing.
-/
theorem exists_first
    {document : Json}
    (plain : document.Plain) :
    ∃ first later,
      document.characters = first :: later ∧
        isSeparator first = false ∧ first ≠ ']' := by
  cases plain with
  | null =>
      exact ⟨'n', _, rfl, rfl, by decide⟩
  | bool value =>
      cases value
      · exact ⟨'f', _, rfl, rfl, by decide⟩
      · exact ⟨'t', _, rfl, rfl, by decide⟩
  | number value integral =>
      obtain ⟨first, later, shape, begins⟩ := exists_first_number value
      refine ⟨first, later, by rw [characters, shape], ?_, ?_⟩
      · exact isSeparator_of_beginsNumber begins
      · rintro rfl
        rcases begins with minus | digit <;> contradiction
  | string value =>
      exact ⟨'"', _, rfl, rfl, by decide⟩
  | array items plain =>
      cases items
      · exact ⟨'[', _, rfl, rfl, by decide⟩
      · exact ⟨'[', _, rfl, rfl, by decide⟩
  | object fields named plain =>
      cases fields
      · exact ⟨'\x7b', _, rfl, rfl, by decide⟩
      · exact ⟨'\x7b', _, rfl, rfl, by decide⟩

theorem reads_number
    {number : JsonNumber}
    (positional : number.IsPositional) :
    Reads (.number number) := by
  intro steps rest enough ended
  have read := readNumber_characters positional ended
  obtain ⟨first, later, shape, begins⟩ := exists_first_number number
  rw [characters, shape, List.length_cons] at enough
  rw [characters, shape, List.cons_append]
  rw [shape, List.cons_append] at read
  obtain ⟨steps, rfl⟩ := Nat.exists_eq_add_one.mpr
    (show 0 < steps by omega)
  rw [readValue_of_beginsNumber begins, read]
  rfl

theorem reads_string (value : String) : Reads (.string value) := by
  intro steps rest enough ended
  obtain ⟨steps, rfl⟩ := Nat.exists_eq_add_one.mpr
    (show 0 < steps by simp [characters, quoted] at enough; omega)
  have read := readString_quoted value rest
  have shape :
      (Json.string value).characters ++ rest =
        '"' :: (value.toList.flatMap escaped ++ '"' :: rest) := by
    simp [characters, quoted]
  rw [shape, readValue]
  change (readString _ >>= fun read => some (ofString read.1, read.2)) = _
  rw [read]
  exact congrArg (fun document => some (document, rest))
    (ofString_ofPieces value)

/-- Items whose own texts are read are read to the closing bracket. -/
theorem readItems_laterItems
    {item : Json}
    {later : List Json}
    (readsItem : item.Reads)
    (readsLater : ∀ other ∈ later, other.Reads)
    {steps : Nat}
    (enough :
      2 * (item.characters ++ laterItems later).length + 1 ≤ steps)
    (rest : List Char) :
    readItems steps (item.characters ++ (laterItems later ++ rest)) =
      some (item :: later, rest) := by
  induction later generalizing item steps with
  | nil =>
      rw [List.length_append] at enough
      obtain ⟨steps, rfl⟩ := Nat.exists_eq_add_one.mpr
        (show 0 < steps by omega)
      have read :=
        readsItem steps (']' :: rest) (by omega) (by simp [Ended])
      rw [readItems]
      change (readValue steps (item.characters ++ ']' :: rest) >>= _) = _
      rw [read]
      rfl
  | cons next others inductionHypothesis =>
      rw [List.forall_mem_cons] at readsLater
      rw [List.length_append] at enough
      obtain ⟨steps, rfl⟩ := Nat.exists_eq_add_one.mpr
        (show 0 < steps by omega)
      simp only [laterItems, List.length_cons, List.length_append] at enough
      let after := next.characters ++ (laterItems others ++ rest)
      have read :=
        readsItem steps (',' :: after) (by omega) (by simp [Ended])
      have readAfter :=
        inductionHypothesis readsLater.1 readsLater.2
          (show 2 * (next.characters ++ laterItems others).length + 1 ≤ steps
            by rw [List.length_append]; omega)
      have shape :
          laterItems (next :: others) ++ rest = ',' :: after := by
        simp [laterItems, after]
      rw [readItems, shape, read]
      change (readItems steps after >>= _) = _
      rw [readAfter]
      rfl

/--
After its opening bracket, an array that is not empty is read as its items.
-/
theorem readValue_of_bracket
    {first : Char}
    (notBlank : isSeparator first = false)
    (notBracket : first ≠ ']')
    (steps : Nat)
    (later : List Char) :
    readValue (steps + 1) ('[' :: first :: later) =
      (readItems steps (first :: later)).map
        fun read => (.array read.1, read.2) := by
  have opened : skip ('[' :: first :: later) = '[' :: first :: later :=
    rfl
  have kept : skip (first :: later) = first :: later :=
    List.dropWhile_cons_of_neg (by simp [notBlank])
  rw [readValue, opened]
  split
  case h_5 =>
    rename_i shape
    rw [← (List.cons.inj shape).2, kept]
    split
    · rename_i closed
      exact (notBracket (List.cons.inj closed).1).elim
    · cases readItems steps (first :: later) <;> rfl
  case h_7 =>
    rename_i notArray _
    exact (notArray _ rfl).elim
  all_goals
    rename_i shape
    exact absurd (List.cons.inj shape).1 (by decide)

theorem reads_array
    {items : List Json}
    (plain : ∀ item ∈ items, item.Plain)
    (reads : ∀ item ∈ items, item.Reads) :
    Reads (.array items) := by
  intro steps rest enough ended
  cases items with
  | nil =>
      obtain ⟨steps, rfl⟩ := Nat.exists_eq_add_one.mpr
        (show 0 < steps by simp [characters] at enough; omega)
      rfl
  | cons item later =>
      rw [List.forall_mem_cons] at plain reads
      rw [characters, List.length_cons] at enough
      obtain ⟨steps, rfl⟩ := Nat.exists_eq_add_one.mpr
        (show 0 < steps by omega)
      obtain ⟨first, after, shape, notBlank, notBracket⟩ :=
        exists_first plain.1
      have read :=
        readItems_laterItems reads.1 reads.2
          (show 2 * (item.characters ++ laterItems later).length + 1 ≤ steps
            by omega) rest
      rw [characters, List.cons_append, List.append_assoc]
      rw [shape, List.cons_append] at read ⊢
      rw [readValue_of_bracket notBlank notBracket, read]
      rfl

/-- A name that needs no escape is read back in front of its field. -/
theorem readString_name
    {name : JsonString}
    (unescaped : name.Unescaped)
    (rest : List Char) :
    ∃ body,
      nameCharacters name ++ rest = '"' :: body ∧
        readString body = some (name, rest) := by
  cases name with
  | escaped text =>
      exact unescaped.elim
  | plain text =>
      refine ⟨text.toList.flatMap escaped ++ '"' :: rest, ?_, ?_⟩
      · simp [nameCharacters, JsonString.text?, quoted]
      · rw [readString_quoted, ofPieces_of_unescaped unescaped]

/-- Fields whose own texts are read are read to the closing brace. -/
theorem readFields_laterFields
    {name : JsonString}
    {value : Json}
    {later : List (JsonString × Json)}
    (unescaped : name.Unescaped)
    (reads : value.Reads)
    (unescapedLater : ∀ field ∈ later, field.1.Unescaped)
    (readsLater : ∀ field ∈ later, field.2.Reads)
    {steps : Nat}
    (enough :
      2 * (value.characters ++ laterFields later).length + 1 ≤ steps)
    (rest : List Char) :
    readFields steps
        (nameCharacters name ++
          ':' :: (value.characters ++ (laterFields later ++ rest))) =
      some ((name, value) :: later, rest) := by
  induction later generalizing name value steps with
  | nil =>
      rw [List.length_append] at enough
      obtain ⟨steps, rfl⟩ := Nat.exists_eq_add_one.mpr
        (show 0 < steps by omega)
      obtain ⟨body, shape, named⟩ :=
        readString_name unescaped
          (':' :: (value.characters ++ (laterFields [] ++ rest)))
      have read :=
        reads steps ('\x7d' :: rest) (by omega) (by simp [Ended])
      rw [shape, readFields]
      change (readString body >>= _) = _
      rw [named]
      change (readValue steps (value.characters ++ '\x7d' :: rest) >>= _) = _
      rw [read]
      rfl
  | cons next others inductionHypothesis =>
      rcases next with ⟨nextName, nextValue⟩
      rw [List.forall_mem_cons] at unescapedLater readsLater
      rw [List.length_append] at enough
      obtain ⟨steps, rfl⟩ := Nat.exists_eq_add_one.mpr
        (show 0 < steps by omega)
      simp only [laterFields, List.length_cons, List.length_append] at enough
      let after :=
        nameCharacters nextName ++
          ':' :: (nextValue.characters ++ (laterFields others ++ rest))
      have following :
          laterFields ((nextName, nextValue) :: others) ++ rest =
            ',' :: after := by
        simp [laterFields, after]
      have read :=
        reads steps (',' :: after) (by omega) (by simp [Ended])
      have readAfter :=
        inductionHypothesis unescapedLater.1 readsLater.1 unescapedLater.2
          readsLater.2
          (show
            2 * (nextValue.characters ++ laterFields others).length + 1 ≤
              steps
            by rw [List.length_append]; omega)
      obtain ⟨body, shape, named⟩ :=
        readString_name unescaped (':' :: (value.characters ++ ',' :: after))
      rw [following, shape, readFields]
      change (readString body >>= _) = _
      rw [named]
      change (readValue steps (value.characters ++ ',' :: after) >>= _) = _
      rw [read]
      change (readFields steps after >>= _) = _
      rw [readAfter]
      rfl

theorem reads_object
    {fields : List (JsonString × Json)}
    (unescaped : ∀ field ∈ fields, field.1.Unescaped)
    (reads : ∀ field ∈ fields, field.2.Reads) :
    Reads (.object fields) := by
  intro steps rest enough ended
  cases fields with
  | nil =>
      obtain ⟨steps, rfl⟩ := Nat.exists_eq_add_one.mpr
        (show 0 < steps by simp [characters] at enough; omega)
      rfl
  | cons field later =>
      rcases field with ⟨name, value⟩
      rw [List.forall_mem_cons] at unescaped reads
      simp only [characters, List.length_cons, List.length_append] at enough
      obtain ⟨steps, rfl⟩ := Nat.exists_eq_add_one.mpr
        (show 0 < steps by omega)
      have read :=
        readFields_laterFields unescaped.1 reads.1 unescaped.2 reads.2
          (show 2 * (value.characters ++ laterFields later).length + 1 ≤ steps
            by rw [List.length_append]; omega) rest
      obtain ⟨body, shape, -⟩ :=
        readString_name unescaped.1
          (':' :: (value.characters ++ (laterFields later ++ rest)))
      have opened :
          (Json.object ((name, value) :: later)).characters ++ rest =
            '\x7b' :: '"' :: body := by
        rw [← shape]
        simp [characters]
      rw [opened, readValue]
      change (readFields steps ('"' :: body) >>= _) = _
      rw [← shape, read]
      rfl

/-- Every plain document is read from its text, whatever follows it. -/
theorem Plain.reads
    {document : Json}
    (plain : document.Plain) :
    document.Reads := by
  induction plain with
  | null =>
      intro steps rest enough ended
      have positive : 0 < steps := by
        simp [characters] at enough
        omega
      obtain ⟨steps, rfl⟩ := Nat.exists_eq_add_one.mpr positive
      rfl
  | bool value =>
      intro steps rest enough ended
      have positive : 0 < steps := by
        cases value <;> simp [characters] at enough <;> omega
      obtain ⟨steps, rfl⟩ := Nat.exists_eq_add_one.mpr positive
      cases value <;> rfl
  | number value integral =>
      exact reads_number integral.isPositional
  | string value =>
      exact reads_string value
  | array items plain inductionHypothesis =>
      exact reads_array plain inductionHypothesis
  | object fields unescaped plain inductionHypothesis =>
      exact reads_object unescaped inductionHypothesis

/-- A plain document is read back from its text. -/
theorem Plain.read?_text
    {document : Json}
    (plain : document.Plain) :
    read? document.text = some document := by
  have read :=
    plain.reads (2 * document.characters.length + 1) []
      (Nat.le_succ _) (by simp [Ended])
  rw [List.append_nil] at read
  unfold read? text readDocument
  rw [String.toList_ofList, read]
  rfl

/-! The forms in which the codecs write are plain if their parts are. -/

variable {α : Type} {toJson : α → Json}

theorem plain_ofInt (integer : Int) : (ofInt integer).Plain :=
  .number _ (JsonNumber.isPlain_ofInt integer)

theorem plain_ofList
    {values : List α}
    (plain : ∀ value ∈ values, (toJson value).Plain) :
    (ofList toJson values).Plain := by
  refine .array _ ?_
  intro item member
  obtain ⟨value, present, rfl⟩ := List.mem_map.mp member
  exact plain value present

theorem plain_ofOption
    {value : Option α}
    (plain : ∀ present ∈ value, (toJson present).Plain) :
    (ofOption toJson value).Plain := by
  cases value with
  | none =>
      exact .null
  | some present =>
      exact plain present rfl

theorem plain_presentField
    {name : String}
    {value : Option α}
    (plain : ∀ present ∈ value, (toJson present).Plain) :
    ∀ field ∈ presentField name toJson value, field.2.Plain := by
  cases value with
  | none =>
      simp [presentField]
  | some present =>
      simpa [presentField] using plain present rfl

/-- A record is plain if its values are and no known name needs an escape. -/
theorem plain_record
    (names : List String)
    {fields : List (String × Json)}
    (known : fields.map Prod.fst ⊆ names)
    (unescaped : ∀ name ∈ names, JsonString.Unescaped (.plain name))
    (plain : ∀ field ∈ fields, field.2.Plain) :
    (record fields).Plain := by
  refine .object _ ?_ ?_
  · intro field member
    obtain ⟨written, present, rfl⟩ := List.mem_map.mp member
    exact unescaped _ (known (List.mem_map_of_mem present))
  · intro field member
    obtain ⟨written, present, rfl⟩ := List.mem_map.mp member
    exact plain written present

end Json

end LiquidityReturns
