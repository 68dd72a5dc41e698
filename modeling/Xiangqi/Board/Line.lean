import Xiangqi.Board.Basic

/-!
# Pieces between two squares

Chariots, cannons and facing generals look along a row or a column. The count of what stands in
between is taken by walking from one square toward the other, one square at a time.
-/

namespace Xiangqi.Board

/-- Walk from `here` in steps of the given rows and columns until `goal`, and count the occupied
squares before `goal`. No more than the given number of squares are visited; a walk that leaves the
board or visits too many has no count. -/
def walk (board : Board) (goal : Square) (rows cols : Int) : Nat → Square → Option Nat
  | 0, _ => none
  | visits + 1, here =>
    if here = goal then
      some 0
    else do
      let next ← here.shift? rows cols
      let further ← board.walk goal rows cols visits next
      return further + if board.isOccupied here then 1 else 0

/-- The number of pieces strictly between two squares of one row or one column; squares that are
equal or not in line have no such number. -/
def between? (board : Board) (a b : Square) : Option Nat :=
  if a = b ∨ (a.row ≠ b.row ∧ a.col ≠ b.col) then
    none
  else do
    let rows := (b.rank - a.rank).sign
    let cols := (b.file - a.file).sign
    let first ← a.shift? rows cols
    board.walk b rows cols 9 first

end Xiangqi.Board
