namespace LiquidityReturns

/-!
# Characters that steer a terminal

A line that is shown on a terminal must not move the cursor or change colours,
so the characters that could do so are written as escapes.  Tabs, line breaks
and the other control characters stay as they are.
-/

namespace Text

/-- Whether a control character of ASCII steers a terminal. -/
def steersTerminal (character : Char) : Bool :=
  ['\x07', '\x08', '\x0c', '\x1b', '\x7f'].contains character

/-- Whether a character is one of the control characters that follow ASCII. -/
def isLateControl (character : Char) : Bool :=
  0x80 ≤ character.toNat && character.toNat ≤ 0x9F

/--
A character as it is shown: one that steers a terminal by two hexadecimal
digits, a control character after ASCII by its number in braces.
-/
def shownCharacter (character : Char) : List Char :=
  if steersTerminal character then
    ['\\', 'x', Nat.digitChar (character.toNat / 16),
      Nat.digitChar (character.toNat % 16)]
  else if isLateControl character then
    ['\\', 'u', '\x7b'] ++ Nat.toDigits 16 character.toNat ++ ['\x7d']
  else
    [character]

/-- A text as it is shown on a terminal. -/
def shown (text : String) : String :=
  String.ofList (text.toList.flatMap shownCharacter)

theorem shownCharacter_of_plain
    {character : Char}
    (steady : steersTerminal character = false)
    (early : isLateControl character = false) :
    shownCharacter character = [character] := by
  simp [shownCharacter, steady, early]

example : shownCharacter '\x1b' = ['\\', 'x', '1', 'b'] := by
  decide

end Text

end LiquidityReturns
