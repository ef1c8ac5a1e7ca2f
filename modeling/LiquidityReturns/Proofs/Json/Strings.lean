import Mathlib
import LiquidityReturns.Json.Printer
import LiquidityReturns.Json.Reader
import LiquidityReturns.Text.Digit

namespace LiquidityReturns.Json

/-!
# Strings read back from their quoted form

A string is written character by character, most of them as they are and the
others as an escape.  The reader finds the closing quote behind all of them,
takes each for the piece that was written for it, and so has the same text.
-/

open JsonString

/-- The ways in which a character may stand in a string. -/
inductive StandsAs (character : Char) : List Char → Prop where
  | itself
      (notQuote : character ≠ '"')
      (notBackslash : character ≠ '\\')
      (notControl : ¬ character.toNat < 0x20) :
      StandsAs character [character]
  | escape
      (mark : Char)
      (later : List Char)
      (unquoted : ∀ other ∈ later, other ≠ '"' ∧ other ≠ '\\')
      (decodes :
        ∀ rest,
          readEscape (mark :: (later ++ rest)) =
            some (some character, rest)) :
      StandsAs character ('\\' :: mark :: later)

/-- The digits of a control character are four, the first two of them zeros. -/
theorem controlDigits_eq
    {code : Nat}
    (control : code < 0x20) :
    controlDigits code =
      ['0', '0', Nat.digitChar (code / 16), Nat.digitChar (code % 16)] := by
  revert code
  decide

theorem hexValue?_digitChar :
    ∀ value < 16, Text.hexValue? (Nat.digitChar value) = some value := by
  decide

theorem digitChar_unquoted :
    ∀ value < 16,
      Nat.digitChar value ≠ '"' ∧ Nat.digitChar value ≠ '\\' := by
  decide

/-- The escape of a control character is read as that character. -/
theorem readEscape_controlDigits
    {character : Char}
    (control : character.toNat < 0x20)
    (rest : List Char) :
    readEscape ('u' :: (controlDigits character.toNat ++ rest)) =
      some (some character, rest) := by
  have unit :
      readCodeUnit (controlDigits character.toNat ++ rest) =
        some (character.toNat, rest) := by
    have zero := hexValue?_digitChar 0 (by decide)
    have high := hexValue?_digitChar (character.toNat / 16) (by omega)
    have low := hexValue?_digitChar (character.toNat % 16) (by omega)
    rw [controlDigits_eq control]
    change (do
      let first ← Text.hexValue? (Nat.digitChar 0)
      let second ← Text.hexValue? (Nat.digitChar 0)
      let third ← Text.hexValue? (Nat.digitChar (character.toNat / 16))
      let fourth ← Text.hexValue? (Nat.digitChar (character.toNat % 16))
      return (((first * 16 + second) * 16 + third) * 16 + fourth, rest)) = _
    rw [zero, high, low]
    exact congrArg (fun code => some (code, rest)) (by omega)
  have notHigh :
      ¬ (0xD800 ≤ character.toNat ∧ character.toNat ≤ 0xDBFF) := by
    omega
  have notLow :
      ¬ (0xDC00 ≤ character.toNat ∧ character.toNat ≤ 0xDFFF) := by
    omega
  change readUnitEscape _ = _
  unfold readUnitEscape
  rw [unit]
  simp only [Option.bind_eq_bind, Option.bind_some]
  rw [if_neg notHigh, if_neg notLow, Char.ofNat_toNat]
  rfl

/-- Every character is written in a way in which it may stand in a string. -/
theorem standsAs_escaped (character : Char) :
    StandsAs character (escaped character) := by
  have short
      (mark : Char)
      (decodes :
        ∀ rest, readEscape (mark :: rest) = some (some character, rest)) :
      StandsAs character ['\\', mark] :=
    .escape mark [] (by simp) decodes
  unfold escaped
  split_ifs with quote backslash backspace tab newline feed carriage control
  · exact short _ fun _ => by rw [quote]; rfl
  · exact short _ fun _ => by rw [backslash]; rfl
  · exact short _ fun _ => by rw [backspace]; rfl
  · exact short _ fun _ => by rw [tab]; rfl
  · exact short _ fun _ => by rw [newline]; rfl
  · exact short _ fun _ => by rw [feed]; rfl
  · exact short _ fun _ => by rw [carriage]; rfl
  · refine .escape 'u' _ ?_ (readEscape_controlDigits control)
    have high := digitChar_unquoted (character.toNat / 16) (by omega)
    have low := digitChar_unquoted (character.toNat % 16) (by omega)
    rw [controlDigits_eq control]
    simp [high, low]
  · exact .itself quote backslash control

/-- A digit needs no escape. -/
theorem escaped_of_isDigit
    {character : Char}
    (digit : Text.isDigit character = true) :
    escaped character = [character] := by
  have different
      (other : Char)
      (noDigit : Text.isDigit other = false) :
      character ≠ other := by
    rintro rfl
    simp [digit] at noDigit
  have notControl : ¬ character.toNat < 0x20 := by
    have bounds : '0' ≤ character ∧ character ≤ '9' :=
      of_decide_eq_true digit
    have atLeast : 48 ≤ character.toNat := bounds.1
    omega
  unfold escaped
  simp only [different '"' rfl, different '\\' rfl, different '\x08' rfl,
    different '\t' rfl, different '\n' rfl, different '\x0c' rfl,
    different '\r' rfl, notControl, if_false]

/-- The piece of a string for a character that stands in it as given. -/
def pieceFor (character : Char) (written : List Char) : Piece :=
  if written = [character] then
    .plain character
  else
    .escape (some character)

theorem character?_pieceFor (character : Char) (written : List Char) :
    (pieceFor character written).character? = some character := by
  unfold pieceFor
  split <;> rfl

/--
The reader of strings passes over characters that are neither quotes nor
backslashes.
-/
theorem splitQuote_unquoted
    {characters : List Char}
    (unquoted : ∀ other ∈ characters, other ≠ '"' ∧ other ≠ '\\')
    (rest : List Char) :
    splitQuote (characters ++ rest) =
      (splitQuote rest).map fun split => (characters ++ split.1, split.2) := by
  induction characters with
  | nil =>
      simp
  | cons first later inductionHypothesis =>
      rw [List.forall_mem_cons] at unquoted
      rw [List.cons_append, splitQuote.eq_def]
      split
      · contradiction
      · rename_i shape
        exact (unquoted.1.1 (List.cons.inj shape).1).elim
      · rename_i shape
        exact (unquoted.1.2 (List.cons.inj shape).1).elim
      · rename_i shape
        obtain ⟨rfl, rfl⟩ := List.cons.inj shape
        rw [inductionHypothesis unquoted.2]
        cases splitQuote rest <;> rfl

/-- The closing quote is found behind a character. -/
theorem splitQuote_standsAs
    {character : Char}
    {written : List Char}
    (stands : StandsAs character written)
    (rest : List Char) :
    splitQuote (written ++ rest) =
      (splitQuote rest).map fun split => (written ++ split.1, split.2) := by
  cases stands with
  | itself notQuote notBackslash notControl =>
      exact splitQuote_unquoted (by simp [notQuote, notBackslash]) rest
  | escape mark later unquoted decodes =>
      change
        (splitQuote (later ++ rest) >>= fun split =>
          some ('\\' :: mark :: split.1, split.2)) = _
      rw [splitQuote_unquoted unquoted]
      cases splitQuote rest <;> rfl

/-- A character is read as its piece in one step. -/
theorem readPieces_standsAs
    {character : Char}
    {written : List Char}
    (stands : StandsAs character written)
    (steps : Nat)
    (rest : List Char) :
    readPieces (steps + 1) (written ++ rest) =
      (readPieces steps rest).map (pieceFor character written :: ·) := by
  cases stands with
  | itself notQuote notBackslash notControl =>
      rw [List.singleton_append, readPieces, if_neg notBackslash,
        if_neg notControl, pieceFor, if_pos rfl]
      cases readPieces steps rest <;> rfl
  | escape mark later unquoted decodes =>
      rw [List.cons_append, List.cons_append, readPieces, if_pos rfl,
        decodes rest, pieceFor, if_neg (by simp)]
      simp only [Option.bind_eq_bind, Option.bind_some]
      cases readPieces steps rest <;> rfl

/-- The pieces that are written for a text. -/
def piecesOf (characters : List Char) : List Piece :=
  characters.map fun character => pieceFor character (escaped character)

theorem splitQuote_escaped (characters rest : List Char) :
    splitQuote (characters.flatMap escaped ++ '"' :: rest) =
      some (characters.flatMap escaped, rest) := by
  induction characters with
  | nil =>
      rfl
  | cons first later inductionHypothesis =>
      rw [List.flatMap_cons, List.append_assoc,
        splitQuote_standsAs (standsAs_escaped first), inductionHypothesis]
      rfl

/-- Some character is written for every character. -/
theorem escaped_ne_nil (character : Char) : escaped character ≠ [] := by
  have stands := standsAs_escaped character
  intro nothing
  rw [nothing] at stands
  cases stands

theorem readPieces_escaped
    {characters : List Char}
    {steps : Nat}
    (enough : (characters.flatMap escaped).length ≤ steps) :
    readPieces steps (characters.flatMap escaped) =
      some (piecesOf characters) := by
  induction characters generalizing steps with
  | nil =>
      cases steps <;> rfl
  | cons first later inductionHypothesis =>
      rw [List.flatMap_cons, List.length_append] at enough
      have consumed := List.length_pos_iff.mpr (escaped_ne_nil first)
      obtain ⟨steps, rfl⟩ := Nat.exists_eq_add_one.mpr (consumed.trans_le
        ((Nat.le_add_right _ _).trans enough))
      rw [List.flatMap_cons,
        readPieces_standsAs (standsAs_escaped first),
        inductionHypothesis (by omega)]
      rfl

/-- The pieces of a text spell that text. -/
theorem textOfPieces?_piecesOf (characters : List Char) :
    textOfPieces? (piecesOf characters) =
      some (String.ofList characters) := by
  have spelled :
      (piecesOf characters).mapM Piece.character? = some characters := by
    induction characters with
    | nil =>
        rfl
    | cons first later inductionHypothesis =>
        change (pieceFor first _ :: piecesOf later).mapM _ = _
        rw [List.mapM_cons, character?_pieceFor, inductionHypothesis]
        rfl
  rw [textOfPieces?, spelled, Option.map_some]

/-- A quoted text is read as its pieces. -/
theorem readString_quoted (value : String) (rest : List Char) :
    readString (value.toList.flatMap escaped ++ '"' :: rest) =
      some (.ofPieces (piecesOf value.toList), rest) := by
  unfold readString
  rw [splitQuote_escaped]
  simp only [Option.bind_eq_bind, Option.bind_some,
    readPieces_escaped le_rfl]
  rfl

/-- A quoted text is read as a document of that text. -/
theorem ofString_ofPieces (value : String) :
    ofString (.ofPieces (piecesOf value.toList)) = .string value := by
  unfold ofString
  rw [text?_ofPieces, textOfPieces?_piecesOf, String.ofList_toList]

/-- A text that needs no escape is read as a plain string. -/
theorem ofPieces_of_unescaped
    {value : String}
    (unescaped :
      ∀ character ∈ value.toList, escaped character = [character]) :
    JsonString.ofPieces (piecesOf value.toList) = .plain value := by
  have pieces : piecesOf value.toList = value.toList.map Piece.plain := by
    refine List.map_congr_left fun character member => ?_
    rw [unescaped character member]
    exact if_pos rfl
  rw [pieces]
  unfold JsonString.ofPieces
  rw [if_neg (by simp [Piece.isEscape])]
  simp [List.filterMap_map, Function.comp_def, Piece.character?]

end LiquidityReturns.Json
