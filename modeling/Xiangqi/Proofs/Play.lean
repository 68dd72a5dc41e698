import Xiangqi.Game
import Xiangqi.Proofs.Legality

/-!
# One move of a sound game

A game is sound when its board is well-formed, the side that waits is out of danger, and no general
has been taken. This is what keeps a move from failing half-way: an allowed move could only break
the board by taking a general, and the waiting side's general is not reached by any piece. Hence an
accepted move is one that `Board.allows`, it leads to the game `Game.moved`, and that game is sound
again, since the side that waits then is the one whose general was just found safe.
-/

namespace Xiangqi.Game

open Fallible

/-- What play never breaks. -/
structure Sound (game : Game) : Prop where
  wellFormed : game.board.WellFormed
  waitingSafe : game.board.inDanger game.toMove.opponent = false
  generalsSpared : ∀ ply ∈ game.plies, ply.captured ≠ some .general

/-- What is looked at before a move is made: the piece is the mover's and may go to the square. -/
structure MayMove (game : Game) (piece : Piece) (source target : Square) : Prop where
  live : game.status = .inProgress
  stands : game.board.pieceOn source = some piece
  owned : piece.side = game.toMove
  allowed : game.board.allows piece target = true

/-- The first reason against a move, in the order in which the reasons are looked at. -/
def objection? (game : Game) (source target : Square) : Option Refusal :=
  if game.status ≠ .inProgress then
    some .gameOver
  else
    match game.board.pieceOn source with
    | none => some (.noPiece source)
    | some piece =>
      if piece.side ≠ game.toMove then some (.notYourPiece source piece.side game.toMove)
      else if game.board.reaches piece target = false then some (.unreachable source target)
      else if (game.board.carry piece.position target).inDanger piece.side then
        some (.exposesGeneral piece.side)
      else none

/-- How a move is judged: the first check that it fails gives the reason against it, and a move that
fails none may be made. -/
inductive Judged (game : Game) (source target : Square) : Option Refusal → Prop
  | finished (ended : game.status ≠ .inProgress) : Judged game source target (some .gameOver)
  | free (live : game.status = .inProgress) (free : game.board.pieceOn source = none) :
      Judged game source target (some (.noPiece source))
  | foreign {piece : Piece} (live : game.status = .inProgress)
      (stands : game.board.pieceOn source = some piece) (foreign : piece.side ≠ game.toMove) :
      Judged game source target (some (.notYourPiece source piece.side game.toMove))
  | beyond {piece : Piece} (live : game.status = .inProgress)
      (stands : game.board.pieceOn source = some piece) (owned : piece.side = game.toMove)
      (beyond : game.board.reaches piece target = false) :
      Judged game source target (some (.unreachable source target))
  | exposed {piece : Piece} (live : game.status = .inProgress)
      (stands : game.board.pieceOn source = some piece) (owned : piece.side = game.toMove)
      (reaches : game.board.reaches piece target = true)
      (danger : (game.board.carry piece.position target).inDanger piece.side = true) :
      Judged game source target (some (.exposesGeneral piece.side))
  | allowed {piece : Piece} (may : game.MayMove piece source target) :
      Judged game source target none

def record (game : Game) (piece : Piece) (source target : Square) : Ply :=
  game.plyOf piece source target (game.board.pieceOn target)

/-- The game after the piece's move: the mover has won if no piece of the next side may move. -/
def moved (game : Game) (piece : Piece) (source target : Square) : Game :=
  let board := game.board.carry source target
  game.afterPly (game.record piece source target) board
    (if board.movable game.toMove.opponent then none else some game.toMove)

variable {game next : Game} {piece : Piece} {source target : Square} {ply : Ply}

theorem MayMove.reaches (may : game.MayMove piece source target) :
    game.board.reaches piece target = true := by
  have allowed := may.allowed
  simp only [Board.allows, Bool.and_eq_true] at allowed
  exact allowed.1

theorem MayMove.spares (may : game.MayMove piece source target) :
    (game.board.carry piece.position target).inDanger piece.side = false := by
  have allowed := may.allowed
  simp only [Board.allows, Bool.and_eq_true, Bool.not_eq_true'] at allowed
  exact allowed.2

theorem MayMove.safe (may : game.MayMove piece source target) (inPlace : game.board.InPlace) :
    (game.board.carry source target).inDanger game.toMove = false := by
  have spares := may.spares
  rw [may.owned, inPlace source piece may.stands] at spares
  exact spares

/-- No piece of the side to move reaches a general: not its own, and not the one that waits. -/
theorem Sound.holdsGeneral_eq_false (sound : game.Sound)
    (stands : game.board.pieceOn source = some piece) (owned : piece.side = game.toMove)
    (reaches : game.board.reaches piece target = true) (side : Side) :
    game.board.holdsGeneral side target = false := by
  by_cases own : side = piece.side
  · rw [own]
    exact Board.holdsGeneral_eq_false_of_reaches reaches
  · have waits : side = game.toMove.opponent := Side.eq_opponent_of_ne (owned ▸ own)
    rw [waits, Bool.eq_false_iff]
    intro holds
    obtain ⟨home, sole⟩ := sound.wellFormed.exists_soleGeneral game.toMove.opponent
    rw [sole target] at holds
    have danger : game.board.inDanger game.toMove.opponent = true := by
      rw [sole.inDanger_iff sound.wellFormed.inPlace]
      exact ⟨source, piece, stands, by rw [Side.opponent_opponent, owned], holds ▸ reaches⟩
    rw [sound.waitingSafe] at danger
    cases danger

theorem MayMove.wellFormed (may : game.MayMove piece source target) (sound : game.Sound) :
    (game.board.carry source target).WellFormed :=
  sound.wellFormed.carry may.stands
    (sound.holdsGeneral_eq_false may.stands may.owned may.reaches)

theorem Sound.safeAfter_eq (sound : game.Sound) (stands : game.board.pieceOn source = some piece)
    (reaches : game.board.reaches piece target = true) :
    game.board.safeAfter piece target =
      .ok (!(game.board.carry piece.position target).inDanger piece.side) := by
  have inPlace := sound.wellFormed.inPlace
  exact inPlace.safeAfter_eq (sound.wellFormed.hasGeneral piece.side)
    (inPlace.pieceOn_position stands) reaches

/-- The reason that is found is the one by which the move is judged. -/
theorem judged_iff {reason? : Option Refusal} :
    game.Judged source target reason? ↔ game.objection? source target = reason? := by
  constructor
  · intro judged
    cases judged with
    | finished ended => rw [objection?, if_pos ended]
    | free live free => simp [objection?, live, free]
    | foreign live stands foreign => simp [objection?, live, stands, foreign]
    | beyond live stands owned beyond => simp [objection?, live, stands, owned, beyond]
    | exposed live stands owned reaches danger =>
      simp [objection?, live, stands, owned ▸ danger, owned, reaches]
    | allowed may =>
      simp [objection?, may.live, may.stands, may.owned, may.reaches, may.owned ▸ may.spares]
  · rintro rfl
    unfold objection?
    by_cases live : game.status = .inProgress
    · rw [if_neg (not_not.mpr live)]
      cases stands : game.board.pieceOn source with
      | none => exact .free live stands
      | some piece =>
        simp only
        by_cases owned : piece.side = game.toMove
        · rw [if_neg (not_not.mpr owned)]
          cases reaches : game.board.reaches piece target with
          | false => exact .beyond live stands owned reaches
          | true =>
            cases danger : (game.board.carry piece.position target).inDanger piece.side with
            | true => exact .exposed live stands owned reaches danger
            | false =>
              refine .allowed ⟨live, stands, owned, ?_⟩
              rw [Board.allows, reaches, danger]
              rfl
        · rw [if_pos owned]
          exact .foreign live stands owned
    · rw [if_pos live]
      exact .finished live

/-- The first reason against a move of a sound game is the one that is given. -/
theorem Sound.mover_of_objection (sound : game.Sound) {reason : Refusal}
    (objected : game.objection? source target = some reason) :
    game.mover source target = .error (.refused reason) := by
  cases judged_iff.mpr objected with
  | finished ended => rw [mover, if_pos ended]
  | free live free => simp [mover, live, free]
  | foreign live stands foreign => simp [mover, live, stands, foreign]
  | beyond live stands owned beyond => simp [mover, live, stands, owned, beyond]
  | exposed live stands owned reaches danger =>
    have answer := sound.safeAfter_eq stands reaches
    rw [danger] at answer
    simp [mover, live, stands, owned, reaches, answer]

theorem MayMove.mover_eq (may : game.MayMove piece source target) (sound : game.Sound) :
    game.mover source target = .ok piece := by
  have answer := sound.safeAfter_eq may.stands may.reaches
  rw [may.spares] at answer
  simp [mover, may.live, may.stands, may.owned, may.reaches, answer]

/-- A move against which nothing speaks is one that some piece may make, and the other way round. -/
theorem objection?_eq_none_iff :
    game.objection? source target = none ↔ ∃ piece, game.MayMove piece source target := by
  constructor
  · intro unopposed
    cases judged_iff.mpr unopposed with
    | allowed may => exact ⟨_, may⟩
  · rintro ⟨piece, may⟩
    exact judged_iff.mp (.allowed may)

theorem Sound.mover_eq_ok_iff (sound : game.Sound) :
    game.mover source target = .ok piece ↔ game.MayMove piece source target := by
  constructor
  · intro found
    cases objected : game.objection? source target with
    | some reason =>
      rw [sound.mover_of_objection objected] at found
      cases found
    | none =>
      obtain ⟨candidate, may⟩ := objection?_eq_none_iff.mp objected
      rw [may.mover_eq sound] at found
      cases found
      exact may
  · intro may
    exact may.mover_eq sound

theorem MayMove.target_ne (may : game.MayMove piece source target) (sound : game.Sound) :
    target ≠ source := by
  have moves := Board.position_ne_of_reaches may.reaches
  rw [sound.wellFormed.inPlace source piece may.stands] at moves
  exact moves.symm

theorem MayMove.follow_eq (may : game.MayMove piece source target) (sound : game.Sound) :
    game.follow piece source target =
      .ok (game.record piece source target, game.moved piece source target) := by
  have wellFormed := may.wellFormed sound
  have apart := may.target_ne sound
  have audited := Board.audit_eq_ok_iff.mpr wellFormed
  have verdict := wellFormed.inPlace.verdict_eq (wellFormed.hasGeneral game.toMove.opponent)
  simp only [follow, Board.transfer_of_pieceOn may.stands, if_neg apart, audited, verdict, bind,
    Except.bind, pure, Except.pure, Side.opponent_opponent]
  rfl

/-- What an accepted move of a sound game is, and what it leads to. -/
theorem Sound.play_eq_ok_iff (sound : game.Sound) :
    game.play source target = .ok (ply, next) ↔ ∃ piece, game.MayMove piece source target ∧
      ply = game.record piece source target ∧ next = game.moved piece source target := by
  unfold play
  rw [bind_eq_ok_iff]
  constructor
  · rintro ⟨piece, found, made⟩
    have may := sound.mover_eq_ok_iff.mp found
    rw [may.follow_eq sound] at made
    cases made
    exact ⟨piece, may, rfl, rfl⟩
  · rintro ⟨piece, may, rfl, rfl⟩
    refine ⟨piece, sound.mover_eq_ok_iff.mpr may, ?_⟩
    rw [may.follow_eq sound]

/-- A move of a sound game fails exactly with the first reason against it. -/
theorem Sound.play_eq_error_iff (sound : game.Sound) {error : MoveError} :
    game.play source target = .error error ↔
      ∃ reason, game.objection? source target = some reason ∧ error = .refused reason := by
  cases objected : game.objection? source target with
  | some reason =>
    simp [play, sound.mover_of_objection objected, bind, Except.bind, eq_comm]
  | none =>
    obtain ⟨piece, may⟩ := objection?_eq_none_iff.mp objected
    simp [play, may.mover_eq sound, may.follow_eq sound, bind, Except.bind]

theorem Sound.play_ne_corrupt (sound : game.Sound) (corruption : Corruption) :
    game.play source target ≠ .error (.corrupt corruption) := by
  intro failed
  obtain ⟨reason, -, same⟩ := sound.play_eq_error_iff.mp failed
  cases same

theorem MayMove.captured_ne_general (may : game.MayMove piece source target)
    (sound : game.Sound) : (game.record piece source target).captured ≠ some .general := by
  intro taken
  obtain ⟨victim, stands, isGeneral⟩ := Option.map_eq_some_iff.mp taken
  have holds : game.board.holdsGeneral victim.side target = true :=
    Board.holdsGeneral_eq_true_iff.mpr ⟨victim, stands, rfl, isGeneral⟩
  rw [sound.holdsGeneral_eq_false may.stands may.owned may.reaches] at holds
  cases holds

/-- A move keeps a game sound. -/
theorem MayMove.sound (may : game.MayMove piece source target) (sound : game.Sound) :
    (game.moved piece source target).Sound where
  wellFormed := may.wellFormed sound
  waitingSafe := by
    simp only [moved, afterPly, Side.opponent_opponent]
    exact may.safe sound.wellFormed.inPlace
  generalsSpared := by
    intro ply member
    simp only [moved, afterPly, List.mem_append, List.mem_singleton] at member
    rcases member with earlier | rfl
    · exact sound.generalsSpared ply earlier
    · exact may.captured_ne_general sound

theorem Sound.of_play (sound : game.Sound) (played : game.play source target = .ok (ply, next)) :
    next.Sound := by
  obtain ⟨piece, may, -, rfl⟩ := sound.play_eq_ok_iff.mp played
  exact may.sound sound

theorem Sound.inCheck_eq (sound : game.Sound) (side : Side) :
    game.inCheck side = .ok (game.board.inDanger side) :=
  sound.wellFormed.inPlace.inCheck_eq (sound.wellFormed.hasGeneral side)

theorem Sound.legalMoves_eq (sound : game.Sound) (side : Side) :
    game.board.legalMoves side = .ok (game.board.listing side) :=
  sound.wellFormed.inPlace.legalMoves_eq (sound.wellFormed.hasGeneral side)

theorem Sound.destinations_eq (sound : game.Sound) (stands : game.board.pieceOn source = some piece) :
    game.destinations source = .ok (Square.all.filter (game.board.allows piece)) :=
  sound.wellFormed.inPlace.destinations_eq (sound.wellFormed.hasGeneral piece.side) stands

end Xiangqi.Game
