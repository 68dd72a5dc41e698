import Xiangqi.Proofs.Legality
import Xiangqi.Proofs.Symmetry.Reach

/-!
# Symmetries of danger and of legal moves

The search for a general goes in board order, which a symmetry does not keep, so danger is carried
along only where the side has a sole general. There a move is allowed exactly when its image is.
-/

namespace Xiangqi.Symmetry

variable (s : Symmetry) {board : Board} {side : Side} {home : Square}

/-- A side in danger has an image in danger. -/
theorem inDanger_board_of_inDanger (inPlace : board.InPlace) (sole : board.SoleGeneral side home)
    (danger : board.inDanger side = true) : (s.board board).inDanger (s.side side) = true := by
  rw [sole.inDanger_iff inPlace] at danger
  obtain ⟨source, enemy, stands, hostile, reaches⟩ := danger
  rw [(s.soleGeneral_board sole).inDanger_iff (s.inPlace_board inPlace)]
  refine ⟨s.square source, s.piece enemy, ?_, ?_, ?_⟩
  · rw [pieceOn_board_square, stands]
    rfl
  · rw [piece_side, hostile, side_opponent]
  · rw [reaches_board]
    exact reaches

theorem inDanger_board (inPlace : board.InPlace) (sole : board.SoleGeneral side home) :
    (s.board board).inDanger (s.side side) = board.inDanger side := by
  rw [Bool.eq_iff_iff]
  constructor
  · intro danger
    have back := s.inDanger_board_of_inDanger (s.inPlace_board inPlace)
      (s.soleGeneral_board sole) danger
    rw [board_board, side_side] at back
    exact back
  · exact s.inDanger_board_of_inDanger inPlace sole

/-- A move is allowed exactly when its image is. -/
theorem allows_board {piece : Piece} {source : Square} (wellFormed : board.WellFormed)
    (stands : board.pieceOn source = some piece) (target : Square) :
    (s.board board).allows (s.piece piece) (s.square target) = board.allows piece target := by
  rw [Board.allows, Board.allows, reaches_board]
  cases reaches : board.reaches piece target with
  | false => rw [Bool.false_and, Bool.false_and]
  | true =>
    have inPlace := wellFormed.inPlace
    obtain ⟨home, sole⟩ := wellFormed.exists_soleGeneral piece.side
    have spared : home ≠ target := by
      intro same
      have holds := (sole target).mpr same.symm
      rw [Board.holdsGeneral_eq_false_of_reaches reaches] at holds
      cases holds
    have carried := s.inDanger_board (inPlace.carry piece.position target)
      (sole.carry (inPlace.pieceOn_position stands) spared)
    rw [piece_position, piece_side, ← board_carry, carried]

theorem movable_board_of_movable (wellFormed : board.WellFormed)
    (able : board.movable side = true) : (s.board board).movable (s.side side) = true := by
  rw [wellFormed.inPlace.movable_iff] at able
  obtain ⟨source, piece, target, stands, rfl, allowed⟩ := able
  rw [(s.inPlace_board wellFormed.inPlace).movable_iff]
  refine ⟨s.square source, s.piece piece, s.square target, ?_, rfl, ?_⟩
  · rw [pieceOn_board_square, stands]
    rfl
  · rw [s.allows_board wellFormed stands]
    exact allowed

/-- A side may move exactly when its image may. -/
theorem movable_board (wellFormed : board.WellFormed) (side : Side) :
    (s.board board).movable (s.side side) = board.movable side := by
  rw [Bool.eq_iff_iff]
  constructor
  · intro able
    have back := s.movable_board_of_movable (s.wellFormed_board wellFormed) able
    rw [board_board, side_side] at back
    exact back
  · exact s.movable_board_of_movable wellFormed

end Xiangqi.Symmetry
