import Xiangqi.Proofs.Symmetry.Board

/-!
# Symmetries of moves

A piece reaches a square exactly when its image reaches the image square on the image board. Every
rule of movement looks at distances, palaces, banks and the occupation of squares, and each of these
is carried along by a symmetry. Walks along a line go the image way.
-/

namespace Xiangqi.Symmetry

variable (s : Symmetry) (board : Board)

theorem walk_board (goal : Square) (rows cols : Int) (visits : Nat) (here : Square) :
    (s.board board).walk (s.square goal) (s.rows rows) (s.cols cols) visits (s.square here) =
      board.walk goal rows cols visits here := by
  induction visits generalizing here with
  | zero => rfl
  | succ visits ih =>
    rw [Board.walk, Board.walk, shift?_square, isOccupied_board_square]
    simp only [square_eq_iff]
    cases here.shift? rows cols with
    | none => rfl
    | some next =>
      simp only [Option.map_some, Option.bind_eq_bind, Option.bind_some, ih next]

/-- As many pieces stand between the images of two squares as between the squares. -/
theorem between?_board (a b : Square) :
    (s.board board).between? (s.square a) (s.square b) = board.between? a b := by
  have rowsSign : ((s.square b).rank - (s.square a).rank).sign =
      s.rows (b.rank - a.rank).sign := by
    rw [← sign_rows]
    exact congrArg Int.sign (s.rowsTo_square a b)
  have colsSign : ((s.square b).file - (s.square a).file).sign =
      s.cols (b.file - a.file).sign := by
    rw [← sign_cols]
    exact congrArg Int.sign (s.colsTo_square a b)
  unfold Board.between?
  simp only [square_eq_iff, ne_eq, row_square_eq_iff, col_square_eq_iff, rowsSign, colsSign,
    shift?_square]
  cases a.shift? (b.rank - a.rank).sign (b.file - a.file).sign with
  | none => rfl
  | some first =>
    simp only [Option.map_some, Option.bind_eq_bind, Option.bind_some, walk_board]

variable (piece : Piece) (target : Square)

theorem generalReaches_board :
    (s.board board).generalReaches (s.piece piece) (s.square target) =
      board.generalReaches piece target := by
  have sameKind : ((board.pieceOn target).map s.piece).any Piece.isGeneral =
      (board.pieceOn target).any Piece.isGeneral := by
    cases board.pieceOn target <;> rfl
  simp only [Board.generalReaches, piece_position, piece_side, rowsTo_square, colsTo_square,
    natAbs_rows, natAbs_cols, inPalace_square, pieceOn_board_square, between?_board, sameKind]

theorem advisorReaches_board :
    Board.advisorReaches (s.piece piece) (s.square target) =
      Board.advisorReaches piece target := by
  simp only [Board.advisorReaches, piece_position, piece_side, rowsTo_square, colsTo_square,
    natAbs_rows, natAbs_cols, inPalace_square]

theorem elephantReaches_board :
    (s.board board).elephantReaches (s.piece piece) (s.square target) =
      board.elephantReaches piece target := by
  simp only [Board.elephantReaches, piece_position, piece_side, rowsTo_square, colsTo_square,
    natAbs_rows, natAbs_cols, onOwnBank_square, sign_rows, sign_cols, shift?_square]
  cases piece.position.shift? (piece.position.rowsTo target).sign
      (piece.position.colsTo target).sign with
  | none => rfl
  | some eye => simp only [Option.map_some, isOccupied_board_square]

theorem horseLeg?_square (source target : Square) :
    Board.horseLeg? (s.square source) (s.square target) =
      (Board.horseLeg? source target).map s.square := by
  have alongRows := s.shift?_square source (source.rowsTo target).sign 0
  have alongCols := s.shift?_square source 0 (source.colsTo target).sign
  rw [cols_zero] at alongRows
  rw [rows_zero] at alongCols
  simp only [Board.horseLeg?, rowsTo_square, colsTo_square, natAbs_rows, sign_rows, sign_cols,
    alongRows, alongCols]
  split <;> rfl

theorem horseReaches_board :
    (s.board board).horseReaches (s.piece piece) (s.square target) =
      board.horseReaches piece target := by
  simp only [Board.horseReaches, piece_position, rowsTo_square, colsTo_square, natAbs_rows,
    natAbs_cols, rules_board, horseLeg?_square]
  cases Board.horseLeg? piece.position target with
  | none => rfl
  | some leg => simp only [Option.map_some, Option.any_some, isOccupied_board_square]

theorem pawnReaches_board :
    Board.pawnReaches (s.piece piece) (s.square target) = Board.pawnReaches piece target := by
  rw [Bool.eq_iff_iff]
  simp only [Board.pawnReaches, piece_position, piece_side, rowsTo_square, colsTo_square,
    heading_side, onOwnBank_square, Bool.or_eq_true, Bool.and_eq_true, beq_iff_eq, rows_eq_iff,
    rows_eq_zero_iff, cols_eq_zero_iff, natAbs_cols]

/-- Pieces reach the images of the squares they reach. -/
theorem reaches_board :
    (s.board board).reaches (s.piece piece) (s.square target) = board.reaches piece target := by
  have moves : ((s.piece piece).position != s.square target) = (piece.position != target) := by
    rw [Bool.eq_iff_iff, bne_iff_ne, bne_iff_ne, piece_position, ne_eq, square_eq_iff]
  have own : (((board.pieceOn target).map s.piece).any fun other =>
      other.side == (s.piece piece).side) =
        (board.pieceOn target).any fun other => other.side == piece.side := by
    cases board.pieceOn target with
    | none => rfl
    | some other =>
      rw [Bool.eq_iff_iff]
      simp
  unfold Board.reaches
  rw [moves, pieceOn_board_square, own, piece_kind]
  congr 1
  cases piece.kind with
  | general => exact s.generalReaches_board board piece target
  | advisor => exact s.advisorReaches_board piece target
  | elephant => exact s.elephantReaches_board board piece target
  | horse => exact s.horseReaches_board board piece target
  | chariot => simp only [Board.chariotReaches, piece_position, between?_board]
  | cannon =>
    simp only [Board.cannonReaches, piece_position, between?_board, isOccupied_board_square]
  | pawn => exact s.pawnReaches_board piece target

end Xiangqi.Symmetry
