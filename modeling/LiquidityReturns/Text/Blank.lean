namespace LiquidityReturns

/-!
# Blank characters

The characters with the Unicode property `White_Space`, and the removal of
blanks from both ends of a text.
-/

namespace Text

/-- Whether a character has the Unicode property `White_Space`. -/
def isBlank (character : Char) : Bool :=
  let code := character.toNat
  (0x9 ≤ code && code ≤ 0xD) || code == 0x20 || code == 0x85 ||
    code == 0xA0 || code == 0x1680 ||
    (0x2000 ≤ code && code ≤ 0x200A) ||
    code == 0x2028 || code == 0x2029 || code == 0x202F ||
    code == 0x205F || code == 0x3000

def dropBlanks (characters : List Char) : List Char :=
  characters.dropWhile isBlank

def trimCharacters (characters : List Char) : List Char :=
  (dropBlanks (dropBlanks characters).reverse).reverse

/-- Remove the blanks at both ends of a text. -/
def trim (text : String) : String :=
  String.ofList (trimCharacters text.toList)

/-- Whether nothing but blanks stands in a text. -/
def isAllBlank (text : String) : Bool :=
  text.toList.all isBlank

end Text

end LiquidityReturns
