import LiquidityReturns.Web.Form

namespace LiquidityReturns

/-!
# Request targets

The target of a request is the path and the query of an address in the form in
which they are sent.  Blank characters at its end and line breaks are dropped,
dot segments are resolved without leaving a drive, characters that may not be
sent are percent-encoded, and the fragment is left out.
-/

namespace Web.Target

/-- Whether a character is dropped from anywhere in an address. -/
def isBreak (character : Char) : Bool :=
  character = '\t' || character = '\n' || character = '\r'

/-- Whether a character is dropped from the end of an address. -/
def isTrailing (character : Char) : Bool :=
  character.toNat ≤ 0x20

/-- Drop what is never sent. -/
def clean (characters : List Char) : List Char :=
  (characters.reverse.dropWhile isTrailing).reverse.filter
    fun character => !isBreak character

/-- Whether a character lies outside the printable part of ASCII. -/
def isUnprintable (character : Char) : Bool :=
  character.toNat < 0x20 || 0x7F ≤ character.toNat

/-- Whether a character is escaped in a path. -/
def escapesInPath (character : Char) : Bool :=
  isUnprintable character ||
    [' ', '"', '#', '<', '>', '?', '\x60', '\x7b', '\x7d'].contains character

/-- Whether a character is escaped in a query. -/
def escapesInQuery (character : Char) : Bool :=
  isUnprintable character ||
    [' ', '"', '#', '<', '>', '\''].contains character

/-- Whether a character ends a segment of a path. -/
def isSlash (character : Char) : Bool :=
  character = '/' || character = '\\'

/-- Split a path at its slashes. -/
def segments (path : List Char) : List (List Char) :=
  path.splitOnP isSlash

/-- A segment with its escaped dots written plainly. -/
def plainDots : List Char → List Char
  | '%' :: '2' :: 'e' :: rest =>
      '.' :: plainDots rest
  | '%' :: '2' :: 'E' :: rest =>
      '.' :: plainDots rest
  | character :: rest =>
      character :: plainDots rest
  | [] =>
      []

/-- Whether a segment stands for the directory that it is in. -/
def isSingleDot (segment : List Char) : Bool :=
  plainDots segment = ['.']

/-- Whether a segment stands for the directory above. -/
def isDoubleDot (segment : List Char) : Bool :=
  plainDots segment = ['.', '.']

/-- Whether a segment names a drive: a letter and a colon or a bar. -/
def isDriveLetter (segment : List Char) : Bool :=
  match segment with
  | [letter, mark] =>
      letter.isAlpha && (mark = ':' || mark = '|')
  | _ =>
      false

/--
The segments of the directory above, last one first; nothing lies above a
drive.
-/
def above (before : List (List Char)) : List (List Char) :=
  match before with
  | segment :: rest =>
      if isDriveLetter segment then before else rest
  | [] =>
      []

/--
Resolve the dot segments of a path.  The first argument holds the segments
before, last one first.  A dot segment at the end leaves an empty one.
-/
def resolve (before : List (List Char)) :
    List (List Char) → List (List Char)
  | [] =>
      before.reverse
  | [last] =>
      if isDoubleDot last then
        ([] :: above before).reverse
      else if isSingleDot last then
        ([] :: before).reverse
      else
        (last :: before).reverse
  | segment :: rest =>
      if isDoubleDot segment then
        resolve (above before) rest
      else if isSingleDot segment then
        resolve before rest
      else
        resolve (segment :: before) rest

/-- A path as it is sent; its first slash is not part of a segment. -/
def sentPath (path : List Char) : List Char :=
  let encoded :=
    (segments (path.drop 1)).map (Percent.encode escapesInPath)
  (resolve [] encoded).flatMap fun segment => '/' :: segment

/-- Everything before the fragment of an address. -/
def withoutFragment (characters : List Char) : List Char :=
  characters.takeWhile fun character => character ≠ '#'

def pathPart (characters : List Char) : List Char :=
  (withoutFragment characters).takeWhile fun character => character ≠ '?'

/-- The query of an address, if there is one. -/
def queryPart? (characters : List Char) : Option (List Char) :=
  match (withoutFragment characters).dropWhile (· ≠ '?') with
  | [] =>
      none
  | _ :: query =>
      some query

/--
Join the query of an address and further pairs; an empty query is left out.
-/
def sentQuery
    (query : Option (List Char))
    (pairs : List (String × String)) :
    List Char :=
  let own := Percent.encode escapesInQuery (query.getD [])
  let added := Form.encode pairs
  let joined :=
    if own.isEmpty ∨ added.isEmpty then own ++ added else own ++ '&' :: added
  if joined.isEmpty then [] else '?' :: joined

/-- Whether a character ends the host of an address. -/
def endsHost (character : Char) : Bool :=
  isSlash character || character = '?' || character = '#'

/-- Everything after the host of an address, which two slashes introduce. -/
def afterHost (address : List Char) : List Char :=
  ((address.dropWhile (· ≠ '/')).drop 2).dropWhile fun character =>
    !endsHost character

/-- The target of a request to an address, with further pairs in its query. -/
def ofAddress (address : String) (pairs : List (String × String)) : String :=
  let below := afterHost (clean address.toList)
  String.ofList
    (sentPath (pathPart below) ++ sentQuery (queryPart? below) pairs)

end Web.Target

end LiquidityReturns
