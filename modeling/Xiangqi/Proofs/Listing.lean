import Xiangqi.Proofs.Run

/-!
# Listed moves and accepted moves

Three separate functions say what may be played: making the move, listing the moves of the side to
move, and listing the destinations of one square. In a sound game all three come down to
`Board.allows`, so they accept the same pairs of squares.
-/

namespace Xiangqi

namespace Board

variable {board : Board} {side : Side} {source target : Square}

theorem InPlace.mem_legalMoves_iff (inPlace : board.InPlace) (general : board.HasGeneral side)
    {moves : List Move} (listed : board.legalMoves side = .ok moves) :
    ⟨source, target⟩ ∈ moves ↔ ∃ piece, board.pieceOn source = some piece ∧ piece.side = side ∧
      board.allows piece target = true := by
  rw [inPlace.legalMoves_eq general] at listed
  cases listed
  simp only [listing, List.mem_flatMap, List.mem_map, List.mem_filter, Move.mk.injEq]
  constructor
  · rintro ⟨piece, member, _, ⟨-, allowed⟩, rfl, rfl⟩
    obtain ⟨stands, owned⟩ := inPlace.mem_army_iff.mp member
    exact ⟨piece, stands, owned, allowed⟩
  · rintro ⟨piece, stands, owned, allowed⟩
    refine ⟨piece, mem_army.mpr ⟨⟨source, stands⟩, owned⟩, target, ?_, ?_, rfl⟩
    · exact ⟨Square.mem_all target, allowed⟩
    · exact inPlace source piece stands

/-- Nothing is listed exactly when no piece of the side may move. -/
theorem InPlace.legalMoves_eq_nil_iff (inPlace : board.InPlace) (general : board.HasGeneral side) :
    board.legalMoves side = .ok [] ↔ board.movable side = false := by
  rw [inPlace.legalMoves_eq general, Except.ok.injEq, ← List.isEmpty_iff, isEmpty_listing,
    Bool.not_eq_true']

theorem InPlace.mem_destinations_iff (inPlace : board.InPlace) {piece : Piece}
    (general : board.HasGeneral piece.side) (stands : board.pieceOn source = some piece)
    {squares : List Square} (listed : board.destinations source = .ok squares) :
    target ∈ squares ↔ board.allows piece target = true := by
  rw [inPlace.destinations_eq general stands] at listed
  cases listed
  rw [List.mem_filter]
  exact ⟨fun member => member.2, fun allowed => ⟨Square.mem_all target, allowed⟩⟩

end Board

namespace Game

variable {game : Game} {source target : Square}

/-- In a sound game that goes on, a move is accepted exactly if the piece is the mover's and allowed
to go there. -/
theorem Sound.accepts_iff (sound : game.Sound) (live : game.status = .inProgress) :
    (∃ ply next, game.play source target = .ok (ply, next)) ↔
      ∃ piece, game.board.pieceOn source = some piece ∧ piece.side = game.toMove ∧
        game.board.allows piece target = true := by
  constructor
  · rintro ⟨ply, next, played⟩
    obtain ⟨piece, may, -, -⟩ := sound.play_eq_ok_iff.mp played
    exact ⟨piece, may.stands, may.owned, may.allowed⟩
  · rintro ⟨piece, stands, owned, allowed⟩
    have may : game.MayMove piece source target := ⟨live, stands, owned, allowed⟩
    exact ⟨_, _, sound.play_eq_ok_iff.mpr ⟨piece, may, rfl, rfl⟩⟩

/-- In every game that a run leads to and that goes on, a move is accepted exactly if it is listed
among the legal moves, and exactly if the piece on its source is the mover's and its target is
listed among the destinations of the source. -/
theorem play_iff_listed {start : Game} (begun : start.Begun) (actions : List Action)
    (live : (start.run actions).status = .inProgress) (source target : Square) :
    let game := start.run actions
    ((∃ ply next, game.play source target = .ok (ply, next)) ↔
      ∃ moves, game.legalMoves = .ok moves ∧ ⟨source, target⟩ ∈ moves) ∧
    ((∃ ply next, game.play source target = .ok (ply, next)) ↔
      ∃ piece squares, game.board.pieceOn source = some piece ∧ piece.side = game.toMove ∧
        game.destinations source = .ok squares ∧ target ∈ squares) := by
  intro game
  have sound : game.Sound := begun.sound.run actions
  have inPlace := sound.wellFormed.inPlace
  rw [sound.accepts_iff live]
  constructor
  · have general := sound.wellFormed.hasGeneral game.toMove
    have listed := sound.legalMoves_eq game.toMove
    constructor
    · intro accepted
      exact ⟨_, listed, (inPlace.mem_legalMoves_iff general listed).mpr accepted⟩
    · rintro ⟨moves, listed, member⟩
      exact (inPlace.mem_legalMoves_iff general listed).mp member
  · constructor
    · rintro ⟨piece, stands, owned, allowed⟩
      have general := sound.wellFormed.hasGeneral piece.side
      have listed := sound.destinations_eq stands
      exact ⟨piece, _, stands, owned, listed,
        (inPlace.mem_destinations_iff general stands listed).mpr allowed⟩
    · rintro ⟨piece, squares, stands, owned, listed, member⟩
      have general := sound.wellFormed.hasGeneral piece.side
      exact ⟨piece, stands, owned,
        (inPlace.mem_destinations_iff general stands listed).mp member⟩

/-- After Red's cannon has taken a horse, Black's chariot may take the cannon, so the listing of
Black's moves names this move. -/
theorem play_iff_listed_recapture :
    (Game.opening {}).Begun ∧
    let game := (Game.opening {}).run [.move ⟨7, 1⟩ ⟨0, 1⟩]
    game.status = .inProgress ∧
    (∃ moves, game.legalMoves = .ok moves ∧ ⟨⟨0, 0⟩, ⟨0, 1⟩⟩ ∈ moves) ∧
    ∃ piece squares, game.board.pieceOn ⟨0, 0⟩ = some piece ∧ piece.side = game.toMove ∧
      game.destinations ⟨0, 0⟩ = .ok squares ∧ ⟨0, 1⟩ ∈ squares := by
  have live : ((Game.opening {}).run [.move ⟨7, 1⟩ ⟨0, 1⟩]).status = .inProgress := by
    decide +kernel
  obtain ⟨listed, reachable⟩ := play_iff_listed (.opening {}) [.move ⟨7, 1⟩ ⟨0, 1⟩] live
    ⟨0, 0⟩ ⟨0, 1⟩
  have accepted : ∃ ply next,
      ((Game.opening {}).run [.move ⟨7, 1⟩ ⟨0, 1⟩]).play ⟨0, 0⟩ ⟨0, 1⟩ = .ok (ply, next) := by
    have succeeds : (((Game.opening {}).run [.move ⟨7, 1⟩ ⟨0, 1⟩]).play
        ⟨0, 0⟩ ⟨0, 1⟩).toBool = true := by
      decide +kernel
    cases played : ((Game.opening {}).run [.move ⟨7, 1⟩ ⟨0, 1⟩]).play ⟨0, 0⟩ ⟨0, 1⟩ with
    | error reason =>
      rw [played] at succeeds
      cases succeeds
    | ok made => exact ⟨made.1, made.2, rfl⟩
  exact ⟨.opening {}, live, listed.mp accepted, reachable.mp accepted⟩

end Game

end Xiangqi
