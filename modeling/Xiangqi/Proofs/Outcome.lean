import Xiangqi.Proofs.Ending

/-!
# The outcome of a move

A move that is asked of a game is refused for the first of five reasons that applies, and leaves the
whole game as it was, or it is made (`Game.Outcome`). What a move that is made changes, and what it
leaves alone, is `Game.Accepted`. Main statement: `Game.move_outcome`, for every game that a run
leads to.
-/

namespace Xiangqi

/-- After the piece has gone from `source` to `target`, an enemy reaches the general of its side. -/
def Board.Exposes (board : Board) (piece : Piece) (source target : Square) : Prop :=
  ∃ home sq enemy, (board.carry source target).SoleGeneral piece.side home ∧
    (board.carry source target).pieceOn sq = some enemy ∧ enemy.side = piece.side.opponent ∧
    (board.carry source target).reaches enemy home = true

namespace Game

/-- What an accepted move has done. -/
structure Accepted (game : Game) (source target : Square) (ply : Ply) (next : Game) : Prop where
  apart : source ≠ target
  left : next.board.pieceOn source = none
  arrived : next.board.pieceOn target =
    (game.board.pieceOn source).map fun piece => { piece with position := target }
  elsewhere : ∀ sq, sq ≠ source → sq ≠ target → next.board.pieceOn sq = game.board.pieceOn sq
  rules : next.board.rules = game.board.rules
  turn : next.toMove = game.toMove.opponent
  recorded : next.plies = game.plies ++ [ply]
  named : ply.source = source ∧ ply.target = target ∧ ply.Names game.board
  safe : next.inCheck game.toMove = .ok false
  status : ∃ replies, next.legalMoves = .ok replies ∧
    next.status = if replies = [] then .over (some game.toMove) else .inProgress

/-- What becomes of a move: each outcome names the reasons that were looked at before it and do not
apply. -/
inductive Outcome (game : Game) (source target : Square) : Answer × Game → Prop
  | finished (ended : game.status ≠ .inProgress) :
      Outcome game source target (.failed (.refused .gameOver), game)
  | noPiece (live : game.status = .inProgress) (free : game.board.pieceOn source = none) :
      Outcome game source target (.failed (.refused (.noPiece source)), game)
  | notYours {piece : Piece} (live : game.status = .inProgress)
      (stands : game.board.pieceOn source = some piece) (foreign : piece.side ≠ game.toMove) :
      Outcome game source target
        (.failed (.refused (.notYourPiece source piece.side game.toMove)), game)
  | unreachable {piece : Piece} (live : game.status = .inProgress)
      (stands : game.board.pieceOn source = some piece) (owned : piece.side = game.toMove)
      (beyond : game.board.reaches piece target = false) :
      Outcome game source target (.failed (.refused (.unreachable source target)), game)
  | exposed {piece : Piece} (live : game.status = .inProgress)
      (stands : game.board.pieceOn source = some piece) (owned : piece.side = game.toMove)
      (reaches : game.board.reaches piece target = true)
      (exposes : game.board.Exposes piece source target) :
      Outcome game source target (.failed (.refused (.exposesGeneral piece.side)), game)
  | accepted {piece : Piece} {ply : Ply} {next : Game} (live : game.status = .inProgress)
      (stands : game.board.pieceOn source = some piece) (owned : piece.side = game.toMove)
      (reaches : game.board.reaches piece target = true)
      (spares : ¬ game.board.Exposes piece source target)
      (accepted : game.Accepted source target ply next) :
      Outcome game source target (.made ply, next)

variable {game next : Game} {piece : Piece} {source target : Square} {ply : Ply}

/-- Trying the move out shows whether it exposes the general. -/
theorem Sound.exposes_iff (sound : game.Sound) (stands : game.board.pieceOn source = some piece)
    (reaches : game.board.reaches piece target = true) :
    game.board.Exposes piece source target ↔
      (game.board.carry piece.position target).inDanger piece.side = true := by
  have inPlace := sound.wellFormed.inPlace
  obtain ⟨home, sole⟩ := sound.wellFormed.exists_soleGeneral piece.side
  have spared : home ≠ target := by
    intro same
    have holds := (sole target).mpr same.symm
    rw [Board.holdsGeneral_eq_false_of_reaches reaches] at holds
    cases holds
  have carried := sole.carry stands spared
  rw [inPlace source piece stands, carried.inDanger_iff (inPlace.carry source target)]
  constructor
  · rintro ⟨seen, sq, enemy, seenSole, enemyStands, hostile, attacks⟩
    have same := (carried seen).mp ((seenSole seen).mpr rfl)
    exact ⟨sq, enemy, enemyStands, hostile, same ▸ attacks⟩
  · rintro ⟨sq, enemy, enemyStands, hostile, attacks⟩
    exact ⟨_, sq, enemy, carried, enemyStands, hostile, attacks⟩

theorem Sound.act_of_objection (sound : game.Sound) {reason : Refusal}
    (judged : game.Judged source target (some reason)) :
    game.act (.move source target) = (.failed (.refused reason), game) :=
  act_move_of_error (sound.play_eq_error_iff.mpr ⟨reason, judged_iff.mp judged, rfl⟩)

/-- After an accepted move the game goes on exactly if the next side has a legal move. -/
theorem Sound.replies_of_play (sound : game.Sound)
    (played : game.play source target = .ok (ply, next)) :
    ∃ replies, next.legalMoves = .ok replies ∧
      next.status = if replies = [] then .over (some game.toMove) else .inProgress := by
  obtain ⟨owner, turn, status⟩ := sound.status_of_play played
  have stuck_iff := sound.noReply_iff played
  have listed := (sound.of_play played).legalMoves_eq next.toMove
  refine ⟨_, listed, ?_⟩
  rw [← turn, listed, Except.ok.injEq] at stuck_iff
  rw [status, owner]
  cases movable : next.board.movable next.toMove with
  | true => rw [if_pos rfl, if_neg fun none => by simp [stuck_iff.mp none] at movable]
  | false => rw [if_neg Bool.false_ne_true, if_pos (stuck_iff.mpr movable)]

theorem Sound.accepted_of_play (sound : game.Sound)
    (played : game.play source target = .ok (ply, next)) :
    game.Accepted source target ply next := by
  have after := sound.of_play played
  obtain ⟨-, sameSource, sameTarget, names, recorded⟩ := sound.record_of_play played
  obtain ⟨piece, may, -, rfl⟩ := sound.play_eq_ok_iff.mp played
  have apart := (may.target_ne sound).symm
  have board : ∀ sq, (game.moved piece source target).board.pieceOn sq =
      if sq = target then some { piece with position := target }
      else if sq = source then none
      else game.board.pieceOn sq := Board.pieceOn_carry may.stands
  have safe : (game.moved piece source target).board.inDanger game.toMove = false :=
    may.safe sound.wellFormed.inPlace
  refine ⟨apart, ?_, ?_, ?_, ?_, rfl, recorded, ⟨sameSource, sameTarget, names⟩, ?_,
    sound.replies_of_play played⟩
  · rw [board, if_neg apart, if_pos rfl]
  · rw [board, if_pos rfl, may.stands, Option.map_some]
  · intro sq notSource notTarget
    rw [board, if_neg notTarget, if_neg notSource]
  · exact Board.rules_carry game.board source target
  · rw [after.inCheck_eq, safe]

/-- Every move of a sound game has the outcome that it is judged to have. -/
theorem Sound.outcome (sound : game.Sound) (source target : Square) :
    game.Outcome source target (game.act (.move source target)) := by
  have judged : game.Judged source target (game.objection? source target) := judged_iff.mpr rfl
  generalize game.objection? source target = reason? at judged
  cases judged with
  | finished ended =>
    rw [sound.act_of_objection (.finished ended)]
    exact .finished ended
  | free live free =>
    rw [sound.act_of_objection (.free live free)]
    exact .noPiece live free
  | foreign live stands foreign =>
    rw [sound.act_of_objection (.foreign live stands foreign)]
    exact .notYours live stands foreign
  | beyond live stands owned beyond =>
    rw [sound.act_of_objection (.beyond live stands owned beyond)]
    exact .unreachable live stands owned beyond
  | exposed live stands owned reaches danger =>
    rw [sound.act_of_objection (.exposed live stands owned reaches danger)]
    exact .exposed live stands owned reaches ((sound.exposes_iff stands reaches).mpr danger)
  | @allowed piece may =>
    have played := sound.play_eq_ok_iff.mpr ⟨piece, may, rfl, rfl⟩
    have spares : ¬ game.board.Exposes piece source target := by
      rw [sound.exposes_iff may.stands may.reaches, may.spares]
      exact Bool.false_ne_true
    rw [act_move_of_ok played]
    exact .accepted may.live may.stands may.owned may.reaches spares
      (sound.accepted_of_play played)

/-- A move that fails does so again. -/
theorem act_move_of_failed {error : MoveError}
    (failed : (game.act (.move source target)).1 = .failed error) :
    (game.act (.move source target)).2.act (.move source target) = (.failed error, game) := by
  cases played : game.play source target with
  | error reason =>
    rw [act_move_of_error played] at failed ⊢
    cases failed
    exact act_move_of_error played
  | ok made =>
    rw [act_move_of_ok played] at failed
    cases failed

/-- After any run every move that is asked for has its outcome: the answer is the first reason
against it and the game stays as it was, or the move is made. A piece never reaches its own square
nor one that holds a piece of its side, and a move that was refused is refused again. -/
theorem move_outcome {start : Game} (begun : start.Begun) (actions : List Action)
    (source target : Square) :
    let game := start.run actions
    game.Outcome source target (game.act (.move source target)) ∧
    (∀ piece, game.board.pieceOn source = some piece →
      (source = target ∨ ∃ own, game.board.pieceOn target = some own ∧ own.side = piece.side) →
      game.board.reaches piece target = false) ∧
    ∀ error, (game.act (.move source target)).1 = .failed error →
      (game.act (.move source target)).2.act (.move source target) = (.failed error, game) := by
  intro game
  have sound : game.Sound := begun.sound.run actions
  refine ⟨sound.outcome source target, ?_, fun error failed => act_move_of_failed failed⟩
  intro piece stands blocked
  rw [Bool.eq_false_iff]
  intro reaches
  rcases blocked with rfl | ⟨own, onTarget, owned⟩
  · exact Board.position_ne_of_reaches reaches (sound.wellFormed.inPlace _ _ stands)
  · exact Board.side_ne_of_reaches reaches onTarget owned

/-- A chariot mates along the back rank: the move is made, and the game is over. -/
theorem move_outcome_mate :
    ∃ start : Game, start.Begun ∧ ∃ ply next,
      start.act (.move ⟨5, 0⟩ ⟨0, 0⟩) = (.made ply, next) ∧
        start.Accepted ⟨5, 0⟩ ⟨0, 0⟩ ply next ∧ next.status = .over (some .red) := by
  have outcome : (Game.ofPlacement [⟨.general, .red, 9, 3⟩, ⟨.general, .black, 0, 4⟩,
      ⟨.chariot, .red, 1, 8⟩, ⟨.chariot, .red, 5, 0⟩] {}).toOption.map
        (fun start => (start.act (.move ⟨5, 0⟩ ⟨0, 0⟩)).2.status) =
      some (.over (some .red)) := by
    decide +kernel
  obtain ⟨start, started, mated⟩ := Fallible.exists_ok_of_map_eq_some outcome
  have begun : start.Begun := .ofPlacement started
  have live := begun.status_eq
  have made := (move_outcome begun [] ⟨5, 0⟩ ⟨0, 0⟩).1
  rw [run_nil] at made
  generalize acted : start.act (.move ⟨5, 0⟩ ⟨0, 0⟩) = result at made mated
  refine ⟨start, begun, ?_⟩
  cases made with
  | accepted _ _ _ _ _ accepted => exact ⟨_, _, acted, accepted, mated⟩
  | finished ended => exact absurd live ended
  | noPiece | notYours | unreachable | exposed =>
    rw [live] at mated
    cases mated

end Game

end Xiangqi
