import LiquidityReturns.Json.Basic
import LiquidityReturns.Text.Hexadecimal

namespace LiquidityReturns

/-!
# Reading a JSON document

The reader admits the standard grammar and nothing else: no control character
in a string, no leading zero, no text after the document.  Half of a surrogate
pair may be escaped alone, which leaves the string without a text.  Every step
consumes a character, so the length of the text bounds the number of steps.
-/

namespace Json

/-- Whether a character is a blank between the tokens of a document. -/
def isSeparator (character : Char) : Bool :=
  character = ' ' ∨ character = '\t' ∨ character = '\n' ∨ character = '\r'

/-- Skip the blanks before a token. -/
def skip (characters : List Char) : List Char :=
  characters.dropWhile isSeparator

/-- Read the four hexadecimal digits of an escape. -/
def readCodeUnit : List Char → Option (Nat × List Char)
  | first :: second :: third :: fourth :: rest => do
      let first ← Text.hexValue? first
      let second ← Text.hexValue? second
      let third ← Text.hexValue? third
      let fourth ← Text.hexValue? fourth
      return (((first * 16 + second) * 16 + third) * 16 + fourth, rest)
  | _ =>
      none

/-- Read the second half of a surrogate pair and join it with the first. -/
def readLowSurrogate (high : Nat) : List Char → Option (Char × List Char)
  | '\\' :: 'u' :: rest => do
      let (low, rest) ← readCodeUnit rest
      if 0xDC00 ≤ low ∧ low ≤ 0xDFFF then
        return (
          Char.ofNat (0x10000 + (high - 0xD800) * 0x400 + (low - 0xDC00)),
          rest)
      else
        none
  | _ =>
      none

/--
Read the rest of an escape of a code unit: a character, or half of a surrogate
pair alone.
-/
def readUnitEscape
    (characters : List Char) :
    Option (Option Char × List Char) := do
  let (unit, rest) ← readCodeUnit characters
  if 0xD800 ≤ unit ∧ unit ≤ 0xDBFF then
    match readLowSurrogate unit rest with
    | some (character, rest) =>
        return (some character, rest)
    | none =>
        return (none, rest)
  else if 0xDC00 ≤ unit ∧ unit ≤ 0xDFFF then
    return (none, rest)
  else
    return (some (Char.ofNat unit), rest)

/-- Read the rest of an escape, after the backslash. -/
def readEscape : List Char → Option (Option Char × List Char)
  | '"' :: rest =>
      some (some '"', rest)
  | '\\' :: rest =>
      some (some '\\', rest)
  | '/' :: rest =>
      some (some '/', rest)
  | 'b' :: rest =>
      some (some '\x08', rest)
  | 'f' :: rest =>
      some (some '\x0c', rest)
  | 'n' :: rest =>
      some (some '\n', rest)
  | 'r' :: rest =>
      some (some '\r', rest)
  | 't' :: rest =>
      some (some '\t', rest)
  | 'u' :: rest =>
      readUnitEscape rest
  | _ =>
      none

/--
Read the pieces between the quotes of a string, in at most the given number of
steps.
-/
def readPieces : Nat → List Char → Option (List JsonString.Piece)
  | _, [] =>
      some []
  | 0, _ :: _ =>
      none
  | steps + 1, character :: rest =>
      if character = '\\' then do
        let (decoded, rest) ← readEscape rest
        return .escape decoded :: (← readPieces steps rest)
      else if character.toNat < 0x20 then
        none
      else
        return .plain character :: (← readPieces steps rest)

/--
Split a text at its first quote without a backslash in front; the quote itself
is dropped.
-/
def splitQuote : List Char → Option (List Char × List Char)
  | [] =>
      none
  | '"' :: rest =>
      some ([], rest)
  | '\\' :: character :: rest => do
      let (body, rest) ← splitQuote rest
      return ('\\' :: character :: body, rest)
  | character :: rest => do
      let (body, rest) ← splitQuote rest
      return (character :: body, rest)

/-- Read a string, after its opening quote. -/
def readString (characters : List Char) : Option (JsonString × List Char) := do
  let (body, rest) ← splitQuote characters
  let pieces ← readPieces body.length body
  return (.ofPieces pieces, rest)

/-- Split the digits off the start of a text. -/
def splitDigits (characters : List Char) : List Char × List Char :=
  (characters.takeWhile Text.isDigit, characters.dropWhile Text.isDigit)

def digitValues (characters : List Char) : List Nat :=
  characters.map fun character => character.toNat - '0'.toNat

/--
Read the integer part: a zero alone, or digits that do not start with a zero.
-/
def readIntegerPart : List Char → Option (Nat × List Char)
  | '0' :: rest =>
      some (0, rest)
  | characters =>
      match splitDigits characters with
      | ([], _) =>
          none
      | (digits, rest) =>
          some (Text.numeral (digitValues digits), rest)

/-- Read the fractional digits, if a point stands here. -/
def readFraction : List Char → Option (List Nat × List Char)
  | '.' :: rest =>
      match splitDigits rest with
      | ([], _) =>
          none
      | (digits, rest) =>
          some (digitValues digits, rest)
  | characters =>
      some ([], characters)

/-- Read the digits of an exponent, at least one. -/
def readExponentDigits (characters : List Char) : Option (Nat × List Char) :=
  match splitDigits characters with
  | ([], _) =>
      none
  | (digits, rest) =>
      some (Text.numeral (digitValues digits), rest)

/-- Read the sign and the digits of an exponent. -/
def readSignedExponent : List Char → Option (Int × List Char)
  | '-' :: rest => do
      let (magnitude, rest) ← readExponentDigits rest
      return (-(magnitude : Int), rest)
  | '+' :: rest => do
      let (magnitude, rest) ← readExponentDigits rest
      return ((magnitude : Int), rest)
  | characters => do
      let (magnitude, rest) ← readExponentDigits characters
      return ((magnitude : Int), rest)

/-- Read the exponent, if its mark stands here. -/
def readExponent : List Char → Option (Option Int × List Char)
  | character :: rest =>
      if character = 'e' ∨ character = 'E' then do
        let (exponent, rest) ← readSignedExponent rest
        return (some exponent, rest)
      else
        some (none, character :: rest)
  | [] =>
      some (none, [])

/-- Read a number without its minus sign. -/
def readMagnitude
    (negative : Bool)
    (characters : List Char) :
    Option (JsonNumber × List Char) := do
  let (integer, rest) ← readIntegerPart characters
  let (fraction, rest) ← readFraction rest
  let (exponent, rest) ← readExponent rest
  return (⟨negative, integer, fraction, exponent⟩, rest)

def readNumber : List Char → Option (JsonNumber × List Char)
  | '-' :: rest =>
      readMagnitude true rest
  | characters =>
      readMagnitude false characters

mutual

/--
Read a value, with the blanks before it, in at most the given number of steps.
-/
def readValue : Nat → List Char → Option (Json × List Char)
  | 0, _ =>
      none
  | steps + 1, characters =>
      match skip characters with
      | 'n' :: 'u' :: 'l' :: 'l' :: rest =>
          some (.null, rest)
      | 't' :: 'r' :: 'u' :: 'e' :: rest =>
          some (.bool true, rest)
      | 'f' :: 'a' :: 'l' :: 's' :: 'e' :: rest =>
          some (.bool false, rest)
      | '"' :: rest => do
          let (written, rest) ← readString rest
          return (.ofString written, rest)
      | '[' :: rest =>
          match skip rest with
          | ']' :: rest =>
              some (.array [], rest)
          | _ => do
              let (items, rest) ← readItems steps rest
              return (.array items, rest)
      | '\x7b' :: rest =>
          match skip rest with
          | '\x7d' :: rest =>
              some (.object [], rest)
          | _ => do
              let (fields, rest) ← readFields steps rest
              return (.object fields, rest)
      | other => do
          let (value, rest) ← readNumber other
          return (.number value, rest)

/-- Read the items of an array and the closing bracket. -/
def readItems : Nat → List Char → Option (List Json × List Char)
  | 0, _ =>
      none
  | steps + 1, characters => do
      let (item, rest) ← readValue steps characters
      match skip rest with
      | ',' :: rest => do
          let (items, rest) ← readItems steps rest
          return (item :: items, rest)
      | ']' :: rest =>
          return ([item], rest)
      | _ =>
          none

/-- Read the fields of an object and the closing brace. -/
def readFields :
    Nat → List Char → Option (List (JsonString × Json) × List Char)
  | 0, _ =>
      none
  | steps + 1, characters =>
      match skip characters with
      | '"' :: rest => do
          let (name, rest) ← readString rest
          match skip rest with
          | ':' :: rest => do
              let (value, rest) ← readValue steps rest
              match skip rest with
              | ',' :: rest => do
                  let (fields, rest) ← readFields steps rest
                  return ((name, value) :: fields, rest)
              | '\x7d' :: rest =>
                  return ([(name, value)], rest)
              | _ =>
                  none
          | _ =>
              none
      | _ =>
          none

end

/-- Read a whole text as one document. -/
def readDocument (characters : List Char) : Option Json := do
  let (document, rest) ← readValue (2 * characters.length + 1) characters
  if (skip rest).isEmpty then
    return document
  else
    none

/-- Read a whole text as one document. -/
def read? (text : String) : Option Json :=
  readDocument text.toList

end Json

end LiquidityReturns
