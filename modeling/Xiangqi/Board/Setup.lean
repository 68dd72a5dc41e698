import Xiangqi.Board.Basic
import Xiangqi.Placement
import Xiangqi.Square.Reader

/-!
# Setting up a board

A board is set up by inserting pieces on free squares. A whole placement is inserted entry by entry,
and the first entry that leaves the board or repeats a square is the error; only then are the
generals counted, Red's before Black's.
-/

namespace Xiangqi.Board

/-- Insert a piece on a free square. -/
def insert (board : Board) (kind : Kind) (side : Side) (sq : Square) : Except SetupError Board :=
  if board.isOccupied sq then
    .error (.squareOccupied sq)
  else
    .ok (board.put sq (some ⟨kind, side, sq⟩))

theorem insert_of_free {board : Board} {sq : Square} (free : board.isOccupied sq = false)
    (kind : Kind) (side : Side) :
    board.insert kind side sq = .ok (board.put sq (some ⟨kind, side, sq⟩)) := by
  rw [insert, free, if_neg Bool.false_ne_true]

theorem insert_of_occupied {board : Board} {sq : Square} (occupied : board.isOccupied sq = true)
    (kind : Kind) (side : Side) : board.insert kind side sq = .error (.squareOccupied sq) := by
  rw [insert, if_pos occupied]

/-- Insert the piece that an entry describes. -/
def insertEntry (board : Board) (entry : Entry) : Except SetupError Board := do
  let sq ← Square.locate entry.row entry.col
  board.insert entry.kind entry.side sq

/-- Check that each side has exactly one general. -/
def checkGenerals (board : Board) : Except SetupError Unit :=
  match Side.all.find? fun side => board.generalCount side != 1 with
  | some side =>
    if board.generalCount side = 0 then .error (.missingGeneral side)
    else .error (.duplicateGeneral side)
  | none => .ok ()

/-- The board with the pieces of a placement. -/
def ofPlacement (placement : Placement) (rules : Rules) : Except SetupError Board := do
  let board ← placement.foldlM insertEntry (empty rules)
  board.checkGenerals
  return board

/-- Clear the board and set it up anew under the same rules. -/
def reset (board : Board) (placement : Placement) : Except SetupError Board :=
  ofPlacement placement board.rules

/-- The board of the standard opening. -/
def opening (rules : Rules) : Board :=
  Placement.opening.foldl (fun board entry =>
    match Square.ofCoords? entry.row.toInt entry.col.toInt with
    | some sq => board.put sq (some ⟨entry.kind, entry.side, sq⟩)
    | none => board) (empty rules)

end Xiangqi.Board
