import Mathlib
import LiquidityReturns.Text.Blank
import LiquidityReturns.Proofs.Text.Digits

namespace LiquidityReturns.Text

/-!
# Texts without blanks at their ends

Trimming leaves a text alone when no blank stands at either end, and a text
of digits, signs and points has no blank at all.
-/

/-- No blank stands at either end of a text. -/
def Unpadded (text : String) : Prop :=
  (∀ character ∈ text.toList.head?, isBlank character = false) ∧
    ∀ character ∈ text.toList.getLast?, isBlank character = false

instance (text : String) : Decidable (Unpadded text) :=
  decidable_of_iff
    (text.toList.head?.all (!isBlank ·) = true ∧
      text.toList.getLast?.all (!isBlank ·) = true)
    (by simp [Unpadded, Option.all_eq_true])

theorem dropBlanks_of_head
    {characters : List Char}
    (visible :
      ∀ character ∈ characters.head?, isBlank character = false) :
    dropBlanks characters = characters := by
  cases characters with
  | nil =>
      rfl
  | cons first rest =>
      have firstVisible : isBlank first = false :=
        visible first rfl
      simp [dropBlanks, firstVisible]

theorem trimCharacters_of_ends
    {characters : List Char}
    (first : ∀ character ∈ characters.head?, isBlank character = false)
    (last : ∀ character ∈ characters.getLast?, isBlank character = false) :
    trimCharacters characters = characters := by
  unfold trimCharacters
  rw [dropBlanks_of_head first, dropBlanks_of_head, List.reverse_reverse]
  simpa [List.head?_reverse] using last

/-- A text without blanks at its ends is already trimmed. -/
theorem trim_of_unpadded
    {text : String}
    (unpadded : Unpadded text) :
    trim text = text := by
  unfold trim
  rw [trimCharacters_of_ends unpadded.1 unpadded.2, String.ofList_toList]

/-- A text without any blank is already trimmed. -/
theorem trim_ofList
    {characters : List Char}
    (visible : ∀ character ∈ characters, isBlank character = false) :
    trim (String.ofList characters) = String.ofList characters := by
  apply trim_of_unpadded
  unfold Unpadded
  rw [String.toList_ofList]
  exact ⟨fun _ first => visible _ (List.mem_of_mem_head? first),
    fun _ last => visible _ (List.mem_of_mem_getLast? last)⟩

/--
Nothing is left without the blanks in front exactly when there is nothing else.
-/
theorem dropBlanks_eq_nil_iff {characters : List Char} :
    dropBlanks characters = [] ↔
      ∀ character ∈ characters, isBlank character = true :=
  List.dropWhile_eq_nil_iff

/--
What is left without the blanks in front begins with no blank, so it is nothing
if it is blank.
-/
theorem dropBlanks_reverse_dropBlanks_eq_nil_iff {characters : List Char} :
    dropBlanks (dropBlanks characters).reverse = [] ↔
      dropBlanks characters = [] := by
  rw [dropBlanks_eq_nil_iff]
  constructor
  · intro blank
    by_contra left
    have first := List.head_dropWhile_not isBlank left
    have firstBlank := blank _ (List.mem_reverse.mpr (List.head_mem left))
    exact Bool.false_ne_true (first.symm.trans firstBlank)
  · intro empty
    simp [empty]

/-- Nothing is left of a text exactly when all of it is blank. -/
theorem trim_eq_empty_iff {text : String} :
    trim text = "" ↔ isAllBlank text = true := by
  unfold trim trimCharacters isAllBlank
  rw [String.ofList_eq_empty_iff, List.reverse_eq_nil_iff,
    dropBlanks_reverse_dropBlanks_eq_nil_iff, dropBlanks_eq_nil_iff,
    List.all_eq_true]

theorem isBlank_of_isDigit
    {character : Char}
    (digit : isDigit character = true) :
    isBlank character = false := by
  have lower : 48 ≤ character.toNat := by
    simp only [isDigit, decide_eq_true_eq] at digit
    exact digit.1
  have upper : character.toNat ≤ 57 := by
    simp only [isDigit, decide_eq_true_eq] at digit
    exact digit.2
  unfold isBlank
  simp
  omega

/-- The digits of a number hold no blank. -/
theorem trim_digits (number : Nat) :
    trim (String.ofList (digits number)) =
      String.ofList (digits number) :=
  trim_ofList fun _ member =>
    isBlank_of_isDigit (isDigit_of_mem_digits member)

/-- A written integer holds no blank. -/
theorem trim_signed (integer : Int) :
    trim (String.ofList (signed integer)) =
      String.ofList (signed integer) := by
  unfold signed
  split
  · refine trim_ofList (List.forall_mem_cons.mpr ⟨rfl, ?_⟩)
    exact fun _ member =>
      isBlank_of_isDigit (isDigit_of_mem_digits member)
  · exact trim_digits _

end LiquidityReturns.Text
