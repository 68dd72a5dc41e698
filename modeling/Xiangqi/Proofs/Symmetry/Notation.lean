import Xiangqi.Notation
import Xiangqi.Proofs.Symmetry.Board

/-!
# Symmetries of the notation

A gain of rows and the order of the pieces on a file are seen from the mover's side, so no symmetry
changes them. Files are counted from the mover's right hand: a symmetry that exchanges both the ends
and left and right keeps their numbers, one that does only one of the two reverses them. Under the
half turn, therefore, a move is written as before but for the case of the letter of its piece.
-/

namespace Xiangqi

open Notation

namespace Symmetry

variable (s : Symmetry) (board : Board) (piece : Piece) (source target : Square)

theorem rows_mul_rows (a b : Int) : s.rows a * s.rows b = a * b := by
  unfold rows
  cases s.swap with
  | false => rfl
  | true => exact Int.neg_mul_neg a b

/-- A move gains as many rows as its image. -/
theorem gain_square (side : Side) :
    gain (s.side side) (s.square source) (s.square target) = gain side source target := by
  have rows := s.rowsTo_square source target
  unfold Square.rowsTo at rows
  rw [gain, gain, rows, heading_side, rows_mul_rows]

theorem fileNumber_square (side : Side) :
    fileNumber (s.square source) (s.side side) =
      if s.swap = s.mirror then fileNumber source side else 10 - fileNumber source side := by
  have bound := source.col.isLt
  unfold square Symmetry.side
  cases s.swap <;> cases s.mirror <;> cases side <;>
    simp only [if_true, Bool.false_eq_true, Bool.true_eq_false, if_false, Side.opponent, fileNumber,
      Fin.val_rev] <;> omega

/-- The pieces of the kind on the image file are the images of those on the file. -/
theorem sharers_board_perm :
    (sharers (s.board board) (s.piece piece) (s.square source)).Perm
      ((sharers board piece source).map s.piece) := by
  have sameTest : (fun other : Piece => other.kind == (s.piece piece).kind &&
      other.position.col == (s.square source).col) ∘ s.piece =
        fun other => other.kind == piece.kind && other.position.col == source.col := by
    funext other
    rw [Bool.eq_iff_iff]
    simp only [Function.comp_apply, piece_kind, piece_position, Bool.and_eq_true, beq_iff_eq,
      col_square_eq_iff]
  have filtered := (s.army_board_perm board piece.side).filter fun other =>
    other.kind == (s.piece piece).kind && other.position.col == (s.square source).col
  rw [List.filter_map, sameTest] at filtered
  exact filtered

theorem length_sharers_board :
    (sharers (s.board board) (s.piece piece) (s.square source)).length =
      (sharers board piece source).length := by
  rw [(s.sharers_board_perm board piece source).length_eq, List.length_map]

/-- A piece is the front one on its file exactly when its image is. -/
theorem all_sharers_board :
    ((sharers (s.board board) (s.piece piece) (s.square source)).all fun other =>
      0 ≤ gain (s.piece piece).side other.position (s.square source)) =
        (sharers board piece source).all fun other =>
          0 ≤ gain piece.side other.position source := by
  rw [(s.sharers_board_perm board piece source).all_eq, List.all_map]
  simp only [Function.comp_def, piece_side, piece_position, gain_square]

end Symmetry

namespace HalfTurn

open Symmetry

/-- The letter in the other case. -/
def otherCase (letter : Char) : Char :=
  if letter.isUpper then letter.toLower else letter.toUpper

/-- The text with its first letter in the other case. -/
def text (text : String) : String :=
  match text.toList with
  | [] => text
  | letter :: rest => String.ofList (otherCase letter :: rest)

variable (board : Board) (piece : Piece) (source target : Square)

theorem otherCase_letter (kind : Kind) : otherCase kind.letter = kind.smallLetter := by
  cases kind <;> decide

theorem otherCase_smallLetter (kind : Kind) : otherCase kind.smallLetter = kind.letter := by
  cases kind <;> decide

theorem glyph_piece : (halfTurn.piece piece).glyph = otherCase piece.glyph := by
  unfold Piece.glyph
  rw [piece_side, halfTurn_side, piece_kind]
  cases piece.side with
  | red => exact (otherCase_letter piece.kind).symm
  | black => exact (otherCase_smallLetter piece.kind).symm

theorem fileNumber_square (side : Side) :
    fileNumber (halfTurn.square source) side.opponent = fileNumber source side := by
  have same := halfTurn.fileNumber_square source side
  have both : halfTurn.swap = halfTurn.mirror := rfl
  rw [if_pos both] at same
  exact same

theorem origin_board :
    origin (halfTurn.board board) (halfTurn.piece piece) (halfTurn.square source) =
      origin board piece source := by
  unfold origin
  simp only [length_sharers_board, all_sharers_board]
  rw [piece_side, halfTurn_side, fileNumber_square]

theorem operand_board :
    operand (halfTurn.piece piece) (halfTurn.square source) (halfTurn.square target) =
      operand piece source target := by
  unfold operand
  rw [piece_side, gain_square, halfTurn_side, fileNumber_square, piece_kind]

/-- A move and its image are written alike, but for the case of the letter of the piece. -/
theorem describe?_board :
    describe? (halfTurn.board board) (halfTurn.square source) (halfTurn.square target) =
      (describe? board source target).map text := by
  unfold describe?
  rw [pieceOn_board_square]
  cases board.pieceOn source with
  | none => rfl
  | some piece =>
    simp only [Option.map_some, write, origin_board, operand_board, glyph_piece, piece_side,
      gain_square, text, String.toList_ofList]

end HalfTurn

end Xiangqi
