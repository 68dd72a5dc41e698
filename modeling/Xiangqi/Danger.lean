import Xiangqi.Reach

/-!
# Danger to a general

A side is in check when some opposing piece reaches its general. Facing generals are covered, since
each of them reaches the other. A move is safe when the mover's general is not in danger afterwards;
this is found by making the move on a copy of the board.
-/

namespace Xiangqi.Board

/-- Whether some opposing piece reaches the side's general. Without a general there is no answer. -/
def inCheck (board : Board) (side : Side) : Except Corruption Bool :=
  match board.generalSquare? side with
  | none => .error (.generalMissing side)
  | some general => .ok ((board.army side.opponent).any fun enemy => board.reaches enemy general)

/-- Whether the mover's general is out of danger once the piece has been carried to the square. -/
def safeAfter (board : Board) (piece : Piece) (target : Square) : Except Corruption Bool := do
  let (_, next) ← board.transfer piece.position target
  let danger ← next.inCheck piece.side
  return !danger

end Xiangqi.Board
