import Xiangqi.Board.Basic

/-!
# The board as text

The diagram has eleven lines: one for each row, with the row's number in front, and a last line with
the numbers of the columns. Each cell takes two characters, a blank and the letter of the piece, or
a point where the square is free.
-/

namespace Xiangqi.Board

/-- The character that stands for a square. -/
def glyphOn (board : Board) (sq : Square) : Char :=
  match board.pieceOn sq with
  | some piece => piece.glyph
  | none => '.'

/-- The line of one row. -/
def rowLine (board : Board) (row : Fin 10) : List Char :=
  Nat.digitChar row.val :: ' ' ::
    (List.finRange 9).flatMap fun col => [' ', board.glyphOn ⟨row, col⟩]

/-- The line with the numbers of the columns. -/
def columnLine : List Char :=
  ' ' :: ' ' :: (List.finRange 9).flatMap fun col => [' ', Nat.digitChar col.val]

/-- The lines of the diagram. -/
def diagramLines (board : Board) : List (List Char) :=
  (List.finRange 10).map board.rowLine ++ [columnLine]

/-- The diagram as one text; there is no line end after its last line. -/
def diagram (board : Board) : String :=
  "\n".intercalate (board.diagramLines.map String.ofList)

end Xiangqi.Board
