import Xiangqi.Proofs.Board.Generals
import Xiangqi.Proofs.Board.Line
import Xiangqi.Reach

/-!
# The rules of movement, one by one

`Board.reaches` is the rule of the piece's kind on a target that holds no own piece; that the target
is another square follows from the rule. The rules that ask about single squares of the board, for
the leg of a horse and the eye of an elephant, are read here as one question: is the next square
that way free? The rules that ask for a line with nothing on it ask for an open file or an open
rank.
-/

namespace Xiangqi.Board

open Square

variable {board : Board} {piece : Piece} {here target : Square} {side : Side}

/-- No piece of the side stands on the square. -/
def admits (board : Board) (side : Side) (sq : Square) : Bool :=
  !(board.pieceOn sq).any fun other => other.side == side

/-- The rule of the piece's kind, whoever stands on the target. -/
def obeys (board : Board) (piece : Piece) (target : Square) : Bool :=
  match piece.kind with
  | .general => board.generalReaches piece target
  | .advisor => advisorReaches piece target
  | .elephant => board.elephantReaches piece target
  | .horse => board.horseReaches piece target
  | .chariot => board.chariotReaches piece target
  | .cannon => board.cannonReaches piece target
  | .pawn => pawnReaches piece target

/-- The next square that way is on the board and free. -/
def opens (board : Board) (here : Square) (way : Int × Int) : Bool :=
  (here.shift? way.1 way.2).any fun next => !board.isOccupied next

/-- The way of the long side of a jump. -/
def longSide (rows cols : Int) : Int × Int :=
  if rows.natAbs = 2 then (rows.sign, 0) else (0, cols.sign)

/-- The squares lie on one file, and nothing stands between them. -/
def OpenFile (board : Board) (a b : Square) : Prop :=
  a.col = b.col ∧ ∀ sq, Between a b sq → board.isOccupied sq = false

/-- The squares lie on one rank, and nothing stands between them. -/
def OpenRank (board : Board) (a b : Square) : Prop :=
  a.row = b.row ∧ ∀ sq, Between a b sq → board.isOccupied sq = false

theorem two_mul_sign {difference : Int} (double : difference.natAbs = 2) :
    2 * difference.sign = difference := by
  rcases (by omega : difference = 2 ∨ difference = -2) with rfl | rfl <;> rfl

theorem OpenFile.symm (line : board.OpenFile here target) : board.OpenFile target here :=
  ⟨line.1.symm, fun sq between => line.2 sq (between_comm.mp between)⟩

theorem OpenRank.symm (line : board.OpenRank here target) : board.OpenRank target here :=
  ⟨line.1.symm, fun sq between => line.2 sq (between_comm.mp between)⟩

theorem openFile_comm : board.OpenFile here target ↔ board.OpenFile target here :=
  ⟨OpenFile.symm, OpenFile.symm⟩

theorem openRank_comm : board.OpenRank here target ↔ board.OpenRank target here :=
  ⟨OpenRank.symm, OpenRank.symm⟩

theorem between?_eq_some_zero_iff_open :
    board.between? here target = some 0 ↔
      here ≠ target ∧ (board.OpenFile here target ∨ board.OpenRank here target) := by
  rw [between?_eq_some_zero_iff, InLine, or_and_right, or_comm (b := here.col = _ ∧ _)]
  rfl

theorem inLine_of_between? {n : Nat} (counted : board.between? here target = some n) :
    here.InLine target := by
  rw [between?_eq] at counted
  split at counted
  · rename_i aligned
    exact aligned.2
  · cases counted

theorem pieceOn_eq_none (free : board.isOccupied target = false) : board.pieceOn target = none := by
  rw [isOccupied, Option.isSome_eq_false_iff, Option.isNone_iff_eq_none] at free
  exact free

theorem admits_of_free (free : board.isOccupied target = false) :
    board.admits side target = true := by
  rw [admits, pieceOn_eq_none free]
  rfl

theorem admits_of_pieceOn {other : Piece} (stands : board.pieceOn target = some other) :
    board.admits side target = true ↔ other.side = side.opponent := by
  simp only [admits, stands, Option.any_some, Bool.not_eq_true', beq_eq_false_iff_ne]
  constructor
  · exact Side.eq_opponent_of_ne
  · intro hostile
    rw [hostile]
    exact Side.opponent_ne side

/-- No rule lets a piece stay where it is. -/
theorem obeys_position_eq_false : board.obeys piece piece.position = false := by
  have rows : piece.position.rowsTo piece.position = 0 := Int.sub_self _
  have cols : piece.position.colsTo piece.position = 0 := Int.sub_self _
  have line : board.between? piece.position piece.position = none := by simp [between?_eq]
  unfold obeys
  cases piece.kind with
  | general => simp [generalReaches, rows, cols, line]
  | advisor => simp [advisorReaches, rows]
  | elephant => simp [elephantReaches, rows]
  | horse => simp [horseReaches, rows, cols]
  | chariot => simp [chariotReaches, line]
  | cannon => simp [cannonReaches, line]
  | pawn =>
    have forward : piece.side.heading ≠ 0 := by cases piece.side <;> decide
    simp [pawnReaches, rows, cols, forward.symm]

theorem reaches_iff :
    board.reaches piece target = true ↔
      board.admits piece.side target = true ∧ board.obeys piece target = true := by
  have split : board.reaches piece target = true ↔ piece.position ≠ target ∧
      board.admits piece.side target = true ∧ board.obeys piece target = true := by
    rw [reaches, Bool.and_eq_true, Bool.and_eq_true, bne_iff_ne, and_assoc]
    rfl
  rw [split]
  constructor
  · exact And.right
  · rintro ⟨admitted, rule⟩
    refine ⟨?_, admitted, rule⟩
    rintro rfl
    rw [obeys_position_eq_false] at rule
    cases rule

theorem elephantReaches_iff :
    board.elephantReaches piece target = true ↔
      ((piece.position.rowsTo target).natAbs = 2 ∧ (piece.position.colsTo target).natAbs = 2) ∧
        target.onOwnBank piece.side = true ∧ board.opens piece.position
          ((piece.position.rowsTo target).sign, (piece.position.colsTo target).sign) = true := by
  simp only [elephantReaches, opens, Bool.and_eq_true, beq_iff_eq, and_assoc]
  cases piece.position.shift? (piece.position.rowsTo target).sign
      (piece.position.colsTo target).sign with
  | none => simp
  | some eye => simp

theorem horseReaches_iff :
    board.horseReaches piece target = true ↔
      (((piece.position.rowsTo target).natAbs = 1 ∧ (piece.position.colsTo target).natAbs = 2) ∨
        ((piece.position.rowsTo target).natAbs = 2 ∧ (piece.position.colsTo target).natAbs = 1)) ∧
      (!board.rules.horseLegBlocking || board.opens piece.position
        (longSide (piece.position.rowsTo target) (piece.position.colsTo target))) = true := by
  have leg : horseLeg? piece.position target = piece.position.shift?
      (longSide (piece.position.rowsTo target) (piece.position.colsTo target)).1
      (longSide (piece.position.rowsTo target) (piece.position.colsTo target)).2 := by
    by_cases tall : (piece.position.rowsTo target).natAbs = 2
    · simp only [horseLeg?, longSide, if_pos tall]
    · simp only [horseLeg?, longSide, if_neg tall]
  simp only [horseReaches, opens, leg, Bool.and_eq_true, Bool.or_eq_true, beq_iff_eq]

/-- On a line with exactly one piece in between, some square is the only occupied one. -/
theorem between?_eq_some_one_iff :
    board.between? here target = some 1 ↔ here ≠ target ∧ here.InLine target ∧
      ∃ screen, ∀ sq, (Between here target sq ∧ board.isOccupied sq = true) ↔ sq = screen := by
  rw [between?_eq, ← and_assoc]
  by_cases aligned : here ≠ target ∧ here.InLine target
  · rw [if_pos aligned, Option.some.injEq, countBetween, countP_all_eq_one_iff]
    simp only [aligned, Bool.and_eq_true, decide_eq_true_eq, and_comm, true_and, ne_eq,
      not_false_eq_true]
  · rw [if_neg aligned]
    simp [aligned]

/-- How a general reaches the opposing one: a step away only if the step stays in its own palace,
from farther away along an open line. -/
theorem reaches_general_iff (isGeneral : piece.kind = .general)
    (holds : board.holdsGeneral piece.side.opponent target = true) :
    board.reaches piece target = true ↔
      (piece.position.distance target = 1 ∧ target.inPalace piece.side = true) ∨
      (piece.position.distance target ≠ 1 ∧ piece.position ≠ target ∧
        (board.OpenFile piece.position target ∨ board.OpenRank piece.position target)) := by
  obtain ⟨other, stands, hostile, otherGeneral⟩ := holdsGeneral_eq_true_iff.mp holds
  have taken : (board.pieceOn target).any Piece.isGeneral = true := by
    simp [stands, Piece.isGeneral, otherGeneral]
  have step : (piece.position.rowsTo target).natAbs + (piece.position.colsTo target).natAbs =
      piece.position.distance target := rfl
  rw [reaches_iff, and_iff_right ((admits_of_pieceOn stands).mpr hostile), obeys, isGeneral]
  simp only [generalReaches, step, taken, Bool.true_and]
  by_cases near : piece.position.distance target = 1
  · simp [near]
  · rw [if_neg near, beq_iff_eq, between?_eq_some_zero_iff_open]
    simp [near]

end Xiangqi.Board
