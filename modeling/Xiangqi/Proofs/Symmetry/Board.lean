import Xiangqi.Proofs.Board.Built
import Xiangqi.Proofs.Symmetry.Square

/-!
# Symmetries of boards

The image of a board holds the image of each piece on the image of its square, under the same rules.
Board order is not kept, so whatever goes through the pieces in board order is compared up to a
permutation. Carrying a piece and then taking the image is the same as carrying its image.
-/

namespace Xiangqi.Symmetry

/-- The image of a piece: its kind stays, its side and its position are replaced by their images. -/
def piece (s : Symmetry) (piece : Piece) : Piece :=
  ⟨piece.kind, s.side piece.side, s.square piece.position⟩

/-- The image of a board. -/
def board (s : Symmetry) (board : Board) : Board where
  rows := Vector.ofFn fun row => Vector.ofFn fun col =>
    (board.pieceOn (s.square ⟨row, col⟩)).map s.piece
  rules := board.rules

variable (s : Symmetry)

@[simp] theorem piece_kind (piece : Piece) : (s.piece piece).kind = piece.kind := rfl

@[simp] theorem piece_side (piece : Piece) : (s.piece piece).side = s.side piece.side := rfl

@[simp] theorem piece_position (piece : Piece) :
    (s.piece piece).position = s.square piece.position := rfl

@[simp] theorem piece_isGeneral (piece : Piece) : (s.piece piece).isGeneral = piece.isGeneral := rfl

@[simp] theorem piece_piece (piece : Piece) : s.piece (s.piece piece) = piece := by
  simp only [Symmetry.piece, side_side, square_square]

@[simp] theorem rules_board (board : Board) : (s.board board).rules = board.rules := rfl

theorem pieceOn_board (board : Board) (sq : Square) :
    (s.board board).pieceOn sq = (board.pieceOn (s.square sq)).map s.piece := by
  simp [Symmetry.board, Board.pieceOn]

@[simp] theorem pieceOn_board_square (board : Board) (sq : Square) :
    (s.board board).pieceOn (s.square sq) = (board.pieceOn sq).map s.piece := by
  rw [pieceOn_board, square_square]

@[simp] theorem isOccupied_board_square (board : Board) (sq : Square) :
    (s.board board).isOccupied (s.square sq) = board.isOccupied sq := by
  rw [Board.isOccupied, Board.isOccupied, pieceOn_board_square, Option.isSome_map]

@[simp] theorem board_board (board : Board) : s.board (s.board board) = board := by
  apply Board.ext_pieceOn
  · rfl
  · intro sq
    rw [pieceOn_board, pieceOn_board_square, Option.map_map]
    have same : s.piece ∘ s.piece = id := funext fun piece => s.piece_piece piece
    rw [same, Option.map_id_fun, id]

/-- The pieces of the image are the images of the pieces, in another order. -/
theorem pieces_board_perm (board : Board) :
    (s.board board).pieces.Perm (board.pieces.map s.piece) := by
  have images : (s.board board).pieces =
      (Square.all.map s.square).filterMap fun sq => (board.pieceOn sq).map s.piece := by
    rw [List.filterMap_map]
    apply List.filterMap_congr
    intro sq _
    exact s.pieceOn_board board sq
  have mapped : board.pieces.map s.piece =
      Square.all.filterMap fun sq => (board.pieceOn sq).map s.piece := by
    rw [Board.pieces, List.map_filterMap]
  rw [images, mapped]
  exact s.map_all_perm.filterMap _

/-- The army of the image side holds the images of the side's pieces, in another order. -/
theorem army_board_perm (board : Board) (side : Side) :
    ((s.board board).army (s.side side)).Perm ((board.army side).map s.piece) := by
  have sameTest : (fun piece : Piece => piece.side == s.side side) ∘ s.piece =
      fun piece => piece.side == side := by
    funext piece
    rw [Bool.eq_iff_iff]
    simp
  have filtered := (s.pieces_board_perm board).filter fun piece => piece.side == s.side side
  rw [List.filter_map, sameTest] at filtered
  exact filtered

theorem holdsGeneral_board_square (board : Board) (side : Side) (sq : Square) :
    (s.board board).holdsGeneral (s.side side) (s.square sq) = board.holdsGeneral side sq := by
  unfold Board.holdsGeneral
  rw [pieceOn_board_square]
  cases board.pieceOn sq with
  | none => rfl
  | some piece =>
    rw [Bool.eq_iff_iff]
    simp

theorem generalCount_board (board : Board) (side : Side) :
    (s.board board).generalCount (s.side side) = board.generalCount side := by
  rw [Board.generalCount, Board.generalCount, (s.army_board_perm board side).countP_eq,
    List.countP_map]
  rfl

variable {board : Board}

theorem soleGeneral_board {side : Side} {home : Square} (sole : board.SoleGeneral side home) :
    (s.board board).SoleGeneral (s.side side) (s.square home) := by
  intro sq
  rw [← s.square_square sq, holdsGeneral_board_square, sole, square_eq_iff]

theorem inPlace_board (inPlace : board.InPlace) : (s.board board).InPlace := by
  intro sq piece stands
  rw [pieceOn_board, Option.map_eq_some_iff] at stands
  obtain ⟨original, found, rfl⟩ := stands
  rw [piece_position, inPlace _ original found, square_square]

theorem wellFormed_board (wellFormed : board.WellFormed) : (s.board board).WellFormed := by
  refine ⟨s.inPlace_board wellFormed.inPlace, fun side => ?_⟩
  rw [← s.side_side side, generalCount_board]
  exact wellFormed.oneGeneral (s.side side)

/-- Boards that can be built have images that can be built. -/
theorem built_board (built : board.Built) : (s.board board).Built :=
  Board.built_iff_inPlace.mpr (s.inPlace_board built.inPlace)

/-- The image of a carried piece is the carried image. -/
theorem board_carry (board : Board) (source target : Square) :
    s.board (board.carry source target) =
      (s.board board).carry (s.square source) (s.square target) := by
  cases stands : board.pieceOn source with
  | none =>
    have free : (s.board board).pieceOn (s.square source) = none := by
      rw [pieceOn_board_square, stands]
      rfl
    simp only [Board.carry, stands, free]
  | some piece =>
    have image : (s.board board).pieceOn (s.square source) = some (s.piece piece) := by
      rw [pieceOn_board_square, stands]
      rfl
    apply Board.ext_pieceOn
    · rw [rules_board, Board.rules_carry, Board.rules_carry, rules_board]
    · intro sq
      rw [← s.square_square sq, pieceOn_board_square, Board.pieceOn_carry stands,
        Board.pieceOn_carry image]
      simp only [square_eq_iff, pieceOn_board_square]
      by_cases onTarget : s.square sq = target
      · rw [if_pos onTarget, if_pos onTarget]
        rfl
      · rw [if_neg onTarget, if_neg onTarget]
        by_cases onSource : s.square sq = source
        · rw [if_pos onSource, if_pos onSource]
          rfl
        · rw [if_neg onSource, if_neg onSource]

end Xiangqi.Symmetry
