import Xiangqi.Kind
import Xiangqi.Square

/-!
# Pieces

A piece knows its kind, its side and the square on which it believes it stands. The board keeps that
belief in step with the cell that holds the piece; the audit of a board looks for a difference.
-/

namespace Xiangqi

/-- A piece of one side together with its position. -/
structure Piece where
  kind : Kind
  side : Side
  position : Square
deriving DecidableEq

/-- The letter on the board diagram: capital for Red, small for Black. -/
def Piece.glyph (piece : Piece) : Char :=
  match piece.side with
  | .red => piece.kind.letter
  | .black => piece.kind.smallLetter

/-- The piece is a general. -/
def Piece.isGeneral (piece : Piece) : Bool :=
  piece.kind == .general

end Xiangqi
