import Xiangqi.Danger

/-!
# Legal moves

A move is legal when the piece reaches the square and its own general is safe afterwards. Legal
moves are found by trying each piece of a side against all ninety squares. A side without a legal
move has lost, whether or not it is in check.
-/

namespace Xiangqi.Board

/-- Whether the piece may move to the square: reach first, then safety. -/
def permits (board : Board) (piece : Piece) (target : Square) : Except Corruption Bool :=
  if board.reaches piece target then board.safeAfter piece target else .ok false

/-- The squares to which the piece may move, in board order. -/
def targets (board : Board) (piece : Piece) : Except Corruption (List Square) :=
  Square.all.filterM (board.permits piece)

/-- The squares to which whatever stands on the given square may move. -/
def destinations (board : Board) (source : Square) : Except Corruption (List Square) :=
  match board.pieceOn source with
  | none => .ok []
  | some piece => board.targets piece

/-- The legal moves of a side: its pieces in board order, the squares of each in board order. -/
def legalMoves (board : Board) (side : Side) : Except Corruption (List Move) := do
  let perPiece ← (board.army side).mapM fun piece => do
    let squares ← board.targets piece
    return squares.map (Move.mk piece.position)
  return perPiece.flatten

/-- Whether the side has a legal move; the search ends with the first one. -/
def canMove (board : Board) (side : Side) : Except Corruption Bool :=
  (board.army side).anyM fun piece => Square.all.anyM (board.permits piece)

/-- The winner when the given side is to move: its opponent if it has no legal move, else nobody. -/
def verdict (board : Board) (toMove : Side) : Except Corruption (Option Side) := do
  let able ← board.canMove toMove
  return if able then none else some toMove.opponent

end Xiangqi.Board
