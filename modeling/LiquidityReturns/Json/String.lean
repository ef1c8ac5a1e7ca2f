namespace LiquidityReturns

/-!
# JSON strings

A string of a JSON document is written plainly or with escapes.  An escape may
stand for half of a surrogate pair without the other half; such a string is
part of a document but has no text.
-/

/-- A JSON string as written: without an escape, or with one. -/
inductive JsonString where
  | plain (text : String)
  | escaped (text : Option String)
  deriving Repr, DecidableEq

namespace JsonString

/-- The text of a string, if it has one. -/
def text? : JsonString → Option String
  | .plain text =>
      some text
  | .escaped text =>
      text

/-- The text of a string that is written without an escape. -/
def plainText? : JsonString → Option String
  | .plain text =>
      some text
  | .escaped _ =>
      none

/-- One character of a string as written; an escape may stand for none. -/
inductive Piece where
  | plain (character : Char)
  | escape (character : Option Char)
  deriving Repr, DecidableEq

namespace Piece

/-- The character that a piece stands for. -/
def character? : Piece → Option Char
  | .plain character =>
      some character
  | .escape character =>
      character

/-- Whether a piece is an escape. -/
def isEscape : Piece → Bool
  | .plain _ =>
      false
  | .escape _ =>
      true

end Piece

/-- The text of some pieces, if each stands for a character. -/
def textOfPieces? (pieces : List Piece) : Option String :=
  (pieces.mapM Piece.character?).map String.ofList

/-- The string that is written in some pieces. -/
def ofPieces (pieces : List Piece) : JsonString :=
  if pieces.any Piece.isEscape then
    .escaped (textOfPieces? pieces)
  else
    .plain (String.ofList (pieces.filterMap Piece.character?))

theorem textOfPieces?_of_no_escape
    {pieces : List Piece}
    (plain : pieces.any Piece.isEscape = false) :
    textOfPieces? pieces =
      some (String.ofList (pieces.filterMap Piece.character?)) := by
  suffices
      pieces.mapM Piece.character? =
        some (pieces.filterMap Piece.character?) by
    simp [textOfPieces?, this]
  induction pieces with
  | nil =>
      rfl
  | cons piece rest inductionHypothesis =>
      cases piece with
      | plain character =>
          have restPlain : rest.any Piece.isEscape = false := by
            simpa [Piece.isEscape] using plain
          rw [List.mapM_cons, inductionHypothesis restPlain]
          rfl
      | escape character =>
          simp [Piece.isEscape] at plain

theorem text?_ofPieces (pieces : List Piece) :
    (ofPieces pieces).text? = textOfPieces? pieces := by
  unfold ofPieces
  split
  · rfl
  · rename_i plain
    rw [textOfPieces?_of_no_escape (by simpa using plain)]
    rfl

end JsonString

end LiquidityReturns
