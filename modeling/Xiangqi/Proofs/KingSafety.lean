import Xiangqi.Proofs.Run

/-!
# King safety

The main result about whole games: from any start, whatever a host asks for and in whatever order,
the board stays well-formed and the side that waits is not in check. So no general is ever taken, and
nothing that reads the board can find it broken. The invariant is `Game.Sound`; one move keeps it by
`MayMove.sound`, a run by `Sound.run`.
-/

namespace Xiangqi.Game

/-- In every game that a run leads to, going on or over, the board passes its audit, the waiting side
is not in check, no move takes a general and no record says that one was taken, and neither a move
nor a listing nor a check scan fails because of the board. -/
theorem king_safety {start : Game} (begun : start.Begun) (actions : List Action) :
    let game := start.run actions
    game.board.audit = .ok () ∧
    (∀ side, game.board.generalCount side = 1) ∧
    (∀ sq piece, game.board.pieceOn sq = some piece → piece.position = sq) ∧
    game.inCheck game.toMove.opponent = .ok false ∧
    (∀ source target corruption, game.play source target ≠ .error (.corrupt corruption)) ∧
    (∀ source target ply next, game.play source target = .ok (ply, next) →
      ply.captured ≠ some .general) ∧
    (∀ ply ∈ game.plies, ply.captured ≠ some .general) ∧
    (∃ moves, game.legalMoves = .ok moves) ∧
    (∀ source, ∃ squares, game.destinations source = .ok squares) ∧
    ∀ side, ∃ check, game.inCheck side = .ok check := by
  intro game
  have sound : game.Sound := begun.sound.run actions
  refine ⟨Board.audit_eq_ok_iff.mpr sound.wellFormed, sound.wellFormed.oneGeneral,
    sound.wellFormed.inPlace, ?_, ?_, ?_, sound.generalsSpared, ?_, ?_, ?_⟩
  · rw [sound.inCheck_eq, sound.waitingSafe]
  · intro source target corruption
    exact sound.play_ne_corrupt corruption
  · intro source target ply next played
    obtain ⟨piece, may, rfl, -⟩ := sound.play_eq_ok_iff.mp played
    exact may.captured_ne_general sound
  · exact ⟨_, sound.legalMoves_eq game.toMove⟩
  · intro source
    cases stands : game.board.pieceOn source with
    | none => exact ⟨[], by rw [destinations, Board.destinations, stands]⟩
    | some piece => exact ⟨_, sound.destinations_eq stands⟩
  · intro side
    exact ⟨_, sound.inCheck_eq side⟩

/-- Red's cannon takes a horse across the board, Black's chariot takes the cannon, and Red resigns:
two captures, and both generals still stand. -/
theorem king_safety_after_exchange :
    (Game.opening {}).Begun ∧
    let game := (Game.opening {}).run
      [.move ⟨7, 1⟩ ⟨0, 1⟩, .move ⟨0, 0⟩ ⟨0, 1⟩, .resign]
    game.plies.map Ply.captured = [some .horse, some .cannon] ∧
    game.status = .over (some .black) ∧
    game.board.audit = .ok () ∧
    game.inCheck game.toMove.opponent = .ok false ∧
    ∀ ply ∈ game.plies, ply.captured ≠ some .general := by
  refine ⟨.opening {}, ?_⟩
  obtain ⟨audited, -, -, safe, -, -, spared, -⟩ := king_safety (.opening {})
    [.move ⟨7, 1⟩ ⟨0, 1⟩, .move ⟨0, 0⟩ ⟨0, 1⟩, .resign]
  exact ⟨by decide +kernel, by decide +kernel, audited, safe, spared⟩

end Xiangqi.Game
