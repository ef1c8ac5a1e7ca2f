import LiquidityReturns.Json.Basic

namespace LiquidityReturns

/-!
# The text of a JSON document

Documents are written without blanks.  In strings, only the quote, the
backslash and the control characters are escaped.
-/

namespace Json

/-- The hexadecimal digits of a control character, four of them. -/
def controlDigits (code : Nat) : List Char :=
  let digits := Nat.toDigits 16 code
  List.replicate (4 - digits.length) '0' ++ digits

/-- A character as it stands in a string. -/
def escaped (character : Char) : List Char :=
  if character = '"' then
    ['\\', '"']
  else if character = '\\' then
    ['\\', '\\']
  else if character = '\x08' then
    ['\\', 'b']
  else if character = '\t' then
    ['\\', 't']
  else if character = '\n' then
    ['\\', 'n']
  else if character = '\x0c' then
    ['\\', 'f']
  else if character = '\r' then
    ['\\', 'r']
  else if character.toNat < 0x20 then
    '\\' :: 'u' :: controlDigits character.toNat
  else
    [character]

def quoted (value : String) : List Char :=
  '"' :: value.toList.flatMap escaped ++ ['"']

/-- A string with half of a surrogate pair alone. -/
def unpairedCharacters : List Char :=
  ['"', '\\', 'u', 'd', '8', '0', '0', '"']

/-- The name of a field with its quotes. -/
def nameCharacters (name : JsonString) : List Char :=
  match name.text? with
  | some text =>
      quoted text
  | none =>
      unpairedCharacters

mutual

def characters : Json → List Char
  | .null =>
      ['n', 'u', 'l', 'l']
  | .bool true =>
      ['t', 'r', 'u', 'e']
  | .bool false =>
      ['f', 'a', 'l', 's', 'e']
  | .number value =>
      value.characters
  | .string value =>
      quoted value
  | .unpaired =>
      unpairedCharacters
  | .array [] =>
      ['[', ']']
  | .array (item :: rest) =>
      '[' :: (characters item ++ laterItems rest)
  | .object [] =>
      ['\x7b', '\x7d']
  | .object ((name, value) :: rest) =>
      '\x7b' ::
        (nameCharacters name ++
          ':' :: (characters value ++ laterFields rest))

/-- The items after the first, each after a comma, and the closing bracket. -/
def laterItems : List Json → List Char
  | [] =>
      [']']
  | item :: rest =>
      ',' :: (characters item ++ laterItems rest)

/-- The fields after the first, each after a comma, and the closing brace. -/
def laterFields : List (JsonString × Json) → List Char
  | [] =>
      ['\x7d']
  | (name, value) :: rest =>
      ',' ::
        (nameCharacters name ++
          ':' :: (characters value ++ laterFields rest))

end

/-- The text of a document. -/
def text (document : Json) : String :=
  String.ofList document.characters

end Json

end LiquidityReturns
