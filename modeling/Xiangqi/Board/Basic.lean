import Xiangqi.Fault
import Xiangqi.Piece
import Xiangqi.Settings

/-!
# The board

A board holds at most one piece on each of its ninety squares, and the rules it is played under.
Everything else about a board is read off the view `Board.pieceOn`. The basic changes are `put`,
which overwrites one square (`pieceOn_put`), and `transfer`, which carries a piece to another square
and gives back what stood there.
-/

namespace Xiangqi

/-- A position: ten rows of nine cells, row 0 first, and the rules in force. -/
structure Board where
  rows : Vector (Vector (Option Piece) 9) 10
  rules : Rules
deriving DecidableEq

namespace Board

/-- The board without pieces. -/
def empty (rules : Rules) : Board :=
  ⟨Vector.replicate 10 (Vector.replicate 9 none), rules⟩

/-- What stands on a square. -/
def pieceOn (board : Board) (sq : Square) : Option Piece :=
  board.rows[sq.row][sq.col]

/-- Something stands on the square. -/
def isOccupied (board : Board) (sq : Square) : Bool :=
  (board.pieceOn sq).isSome

/-- The board with the contents of one square replaced. -/
def put (board : Board) (sq : Square) (content : Option Piece) : Board :=
  { board with
    rows := board.rows.set sq.row.val (board.rows[sq.row].set sq.col.val content) }

/-- All pieces in board order. -/
def pieces (board : Board) : List Piece :=
  Square.all.filterMap board.pieceOn

/-- The pieces of one side in board order. -/
def army (board : Board) (side : Side) : List Piece :=
  board.pieces.filter fun piece => piece.side == side

/-- Where the first general of the side, in board order, believes it stands. -/
def generalSquare? (board : Board) (side : Side) : Option Square :=
  ((board.army side).find? Piece.isGeneral).map Piece.position

/-- How many generals the side has. -/
def generalCount (board : Board) (side : Side) : Nat :=
  (board.army side).countP Piece.isGeneral

/-- Carry whatever stands on `source` to `target`, and give back what stood on `target` once the
piece had been lifted. No rule of movement is looked at. -/
def transfer (board : Board) (source target : Square) :
    Except Corruption (Option Piece × Board) :=
  match board.pieceOn source with
  | none => .error (.emptySource source)
  | some piece =>
    let lifted := board.put source none
    .ok (lifted.pieceOn target, lifted.put target (some { piece with position := target }))

/-- The piece that stands on `slot` but believes it stands elsewhere, as a corruption. -/
def misplaced? (board : Board) (slot : Square) : Option Corruption :=
  match board.pieceOn slot with
  | some piece =>
    if piece.position = slot then none else some (.positionMismatch slot piece.position)
  | none => none

/-- Check that every piece knows where it stands and that each side has one general; the first fault
in board order, then Red before Black, is the one reported. -/
def audit (board : Board) : Except Corruption Unit :=
  match Square.all.findSome? board.misplaced? with
  | some corruption => .error corruption
  | none =>
    match Side.all.find? fun side => board.generalCount side != 1 with
    | some side => .error (.generalCount side (board.generalCount side))
    | none => .ok ()

@[simp] theorem pieceOn_empty (rules : Rules) (sq : Square) : (empty rules).pieceOn sq = none := by
  simp [pieceOn, empty]

/-- Putting changes the square itself and no other. -/
theorem pieceOn_put (board : Board) (sq other : Square) (content : Option Piece) :
    (board.put sq content).pieceOn other = if other = sq then content else board.pieceOn other := by
  obtain ⟨row, col⟩ := sq
  obtain ⟨row', col'⟩ := other
  simp only [pieceOn, put, Fin.getElem_fin, Vector.getElem_set, Square.mk.injEq]
  by_cases sameRow : row.val = row'.val
  · by_cases sameCol : col.val = col'.val
    · have rows := Fin.ext sameRow
      have cols := Fin.ext sameCol
      subst rows cols
      simp
    · have cols : col' ≠ col := fun h => sameCol (by rw [h])
      have rows := Fin.ext sameRow
      subst rows
      simp [sameCol, cols]
  · have rows : row' ≠ row := fun h => sameRow (by rw [h])
    simp [sameRow, rows]

@[simp] theorem rules_put (board : Board) (sq : Square) (content : Option Piece) :
    (board.put sq content).rules = board.rules := rfl

/-- Boards are equal when the rules and every square agree. -/
theorem ext_pieceOn {a b : Board} (rules : a.rules = b.rules)
    (squares : ∀ sq, a.pieceOn sq = b.pieceOn sq) : a = b := by
  obtain ⟨rowsA, rulesA⟩ := a
  obtain ⟨rowsB, rulesB⟩ := b
  simp only at rules
  subst rules
  congr 1
  apply Vector.ext
  intro row rowLt
  apply Vector.ext
  intro col colLt
  exact squares ⟨⟨row, rowLt⟩, ⟨col, colLt⟩⟩

/-- Putting on a square what stands there changes nothing. -/
theorem put_pieceOn (board : Board) (sq : Square) : board.put sq (board.pieceOn sq) = board := by
  refine ext_pieceOn rfl fun other => ?_
  rw [pieceOn_put]
  split
  · rename_i same
    rw [same]
  · rfl

/-- The pieces of a board are what stands on its squares. -/
theorem mem_pieces {board : Board} {piece : Piece} :
    piece ∈ board.pieces ↔ ∃ sq, board.pieceOn sq = some piece := by
  simp only [pieces, List.mem_filterMap]
  constructor
  · rintro ⟨sq, _, stands⟩
    exact ⟨sq, stands⟩
  · rintro ⟨sq, stands⟩
    exact ⟨sq, Square.mem_all sq, stands⟩

/-- An army holds the pieces of its side. -/
theorem mem_army {board : Board} {side : Side} {piece : Piece} :
    piece ∈ board.army side ↔ (∃ sq, board.pieceOn sq = some piece) ∧ piece.side = side := by
  rw [army, List.mem_filter, mem_pieces, beq_iff_eq]

/-- A transfer fails exactly from a free square. -/
theorem transfer_eq_error_iff {board : Board} {source target : Square} {fault : Corruption} :
    board.transfer source target = .error fault ↔
      board.pieceOn source = none ∧ fault = .emptySource source := by
  unfold transfer
  cases stands : board.pieceOn source with
  | none => simp [eq_comm]
  | some piece => simp

end Board

end Xiangqi
