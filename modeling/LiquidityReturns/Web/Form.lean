import LiquidityReturns.Web.Percent

namespace LiquidityReturns

/-!
# Form-encoded queries

A query is a list of names with values.  Pairs are joined by `&` and a name is
joined to its value by `=`; a space is written as `+`, and every other
character outside a small set is percent-encoded.
-/

namespace Web.Form

/-- Whether a character stands for itself. -/
def isPlain (character : Char) : Bool :=
  ('0' ≤ character && character ≤ '9') ||
    ('a' ≤ character && character ≤ 'z') ||
    ('A' ≤ character && character ≤ 'Z') ||
    character = '*' || character = '-' || character = '.' ||
    character = '_'

def encodePart (part : String) : List Char :=
  (Percent.encode (fun character => character ≠ ' ' && !isPlain character)
      part.toList).map
    fun character => if character = ' ' then '+' else character

def encodePair (pair : String × String) : List Char :=
  encodePart pair.1 ++ '=' :: encodePart pair.2

def encode (pairs : List (String × String)) : List Char :=
  ['&'].intercalate (pairs.map encodePair)

/-- Read a name or a value; bytes that are not UTF-8 are replaced. -/
def decodePart (part : List Char) : String :=
  let spaced :=
    part.map fun character => if character = '+' then ' ' else character
  String.ofList
    (Text.Utf8.decodeLenient (Percent.decode (Text.Utf8.encode spaced)))

/-- Read a pair; without `=` the value is empty. -/
def decodePair (piece : List Char) : String × String :=
  (decodePart (piece.takeWhile (· ≠ '=')),
    decodePart ((piece.dropWhile (· ≠ '=')).drop 1))

/-- Read a query; empty pieces are skipped. -/
def decode (query : List Char) : List (String × String) :=
  ((query.splitOn '&').filter fun piece => !piece.isEmpty).map decodePair

end Web.Form

end LiquidityReturns
