import Xiangqi.Proofs.Run
import Xiangqi.Proofs.Symmetry.Legality
import Xiangqi.Proofs.Symmetry.Notation

/-!
# The game as the other player sees it

The half turn of the board exchanges the two sides. Everything a game holds and everything a host
asks for or is told has an image under it: squares are rotated, sides exchanged, and the letter of
the piece in a move text changes its case. A sound game and its image answer an action and its image
by an answer and its image and lead to a game and its image again (`act_game`); by induction this
holds of whole runs.
-/

namespace Xiangqi

namespace HalfTurn

open Symmetry Game

def status : Status → Status
  | .inProgress => .inProgress
  | .over winner => .over (winner.map Side.opponent)

def ply (ply : Ply) : Ply where
  source := halfTurn.square ply.source
  target := halfTurn.square ply.target
  kind := ply.kind
  side := ply.side.opponent
  captured := ply.captured
  wxf := text ply.wxf

def refusal : Refusal → Refusal
  | .gameOver => .gameOver
  | .noPiece sq => .noPiece (halfTurn.square sq)
  | .notYourPiece sq owner toMove =>
    .notYourPiece (halfTurn.square sq) owner.opponent toMove.opponent
  | .unreachable source target =>
    .unreachable (halfTurn.square source) (halfTurn.square target)
  | .exposesGeneral side => .exposesGeneral side.opponent

def corruption : Corruption → Corruption
  | .generalMissing side => .generalMissing side.opponent
  | .generalCount side count => .generalCount side.opponent count
  | .positionMismatch slot stored =>
    .positionMismatch (halfTurn.square slot) (halfTurn.square stored)
  | .emptySource sq => .emptySource (halfTurn.square sq)

def error : MoveError → MoveError
  | .refused reason => .refused (refusal reason)
  | .corrupt fault => .corrupt (corruption fault)

def action : Action → Action
  | .move source target => .move (halfTurn.square source) (halfTurn.square target)
  | .resign => .resign
  | .resignSide side => .resignSide side.opponent
  | .agreeDraw => .agreeDraw

def answer : Answer → Answer
  | .made record => .made (ply record)
  | .ended result => .ended (status result)
  | .failed reason => .failed (error reason)

/-- The image of a game. -/
def game (game : Game) : Game where
  board := halfTurn.board game.board
  toMove := game.toMove.opponent
  firstToMove := game.firstToMove.opponent
  status := status game.status
  plies := game.plies.map ply
  fullMoves := game.fullMoves

variable {current : Game} {piece : Piece} {source target : Square}

theorem status_eq_inProgress_iff {result : Status} :
    status result = .inProgress ↔ result = .inProgress := by
  cases result <;> simp [status]

theorem opponent_eq_iff {a b : Side} : a.opponent = b.opponent ↔ a = b :=
  halfTurn.side_eq_iff

theorem sound_game (sound : current.Sound) : (game current).Sound where
  wellFormed := halfTurn.wellFormed_board sound.wellFormed
  waitingSafe := by
    obtain ⟨home, sole⟩ := sound.wellFormed.exists_soleGeneral current.toMove.opponent
    have same := halfTurn.inDanger_board sound.wellFormed.inPlace sole
    rw [sound.waitingSafe] at same
    exact same
  generalsSpared := by
    intro image member
    obtain ⟨original, recorded, rfl⟩ := List.mem_map.mp member
    exact sound.generalsSpared original recorded

theorem pieceOn_game (stands : current.board.pieceOn source = some piece) :
    (game current).board.pieceOn (halfTurn.square source) = some (halfTurn.piece piece) := by
  have image := halfTurn.pieceOn_board_square current.board source
  rw [stands] at image
  exact image

theorem reaches_game (current : Game) (piece : Piece) (target : Square) :
    (game current).board.reaches (halfTurn.piece piece) (halfTurn.square target) =
      current.board.reaches piece target :=
  halfTurn.reaches_board current.board piece target

/-- The image of a piece that may move is one that may make the image of the move. -/
theorem mayMove_game (sound : current.Sound) (may : current.MayMove piece source target) :
    (game current).MayMove (halfTurn.piece piece) (halfTurn.square source)
      (halfTurn.square target) where
  live := status_eq_inProgress_iff.mpr may.live
  stands := pieceOn_game may.stands
  owned := opponent_eq_iff.mpr may.owned
  allowed := by
    have same := halfTurn.allows_board sound.wellFormed may.stands target
    rw [may.allowed] at same
    exact same

/-- The image of a move is judged as the move is, by the image of the reason. -/
theorem judged_game (sound : current.Sound) {reason? : Option Refusal}
    (judged : current.Judged source target reason?) :
    (game current).Judged (halfTurn.square source) (halfTurn.square target)
      (reason?.map refusal) := by
  cases judged with
  | finished ended => exact .finished fun goesOn => ended (status_eq_inProgress_iff.mp goesOn)
  | free live free =>
    refine .free (status_eq_inProgress_iff.mpr live) ?_
    have image := halfTurn.pieceOn_board_square current.board source
    rw [free] at image
    exact image
  | foreign live stands foreign =>
    exact .foreign (status_eq_inProgress_iff.mpr live) (pieceOn_game stands)
      fun same => foreign (opponent_eq_iff.mp same)
  | beyond live stands owned beyond =>
    exact .beyond (status_eq_inProgress_iff.mpr live) (pieceOn_game stands)
      (opponent_eq_iff.mpr owned) ((reaches_game ..).trans beyond)
  | @exposed piece live stands owned reaches danger =>
    refine .exposed (status_eq_inProgress_iff.mpr live) (pieceOn_game stands)
      (opponent_eq_iff.mpr owned) ((reaches_game ..).trans reaches) ?_
    have allowed := halfTurn.allows_board sound.wellFormed stands target
    rw [Board.allows, Board.allows, reaches_board, reaches, Bool.true_and, Bool.true_and,
      Bool.not_inj_iff] at allowed
    exact allowed.trans danger
  | allowed may => exact .allowed (mayMove_game sound may)

/-- The image of a move is recorded by the image of its record. -/
theorem record_game (current : Game) (piece : Piece) (source target : Square) :
    (game current).record (halfTurn.piece piece) (halfTurn.square source)
      (halfTurn.square target) = ply (current.record piece source target) := by
  have captured : ((halfTurn.board current.board).pieceOn (halfTurn.square target)).map Piece.kind =
      (current.board.pieceOn target).map Piece.kind := by
    rw [pieceOn_board_square, Option.map_map]
    rfl
  have written : (Notation.describe? (halfTurn.board current.board) (halfTurn.square source)
      (halfTurn.square target)).getD "" =
        text ((Notation.describe? current.board source target).getD "") := by
    rw [describe?_board]
    cases Notation.describe? current.board source target <;> rfl
  simp only [record, plyOf, game, ply, captured, written, piece_kind, piece_side, halfTurn_side]

/-- The image of a move leads to the image of the game it leads to. -/
theorem moved_game (sound : current.Sound) (may : current.MayMove piece source target) :
    (game current).moved (halfTurn.piece piece) (halfTurn.square source)
      (halfTurn.square target) = game (current.moved piece source target) := by
  have able := halfTurn.movable_board (may.wellFormed sound) current.toMove.opponent
  rw [halfTurn_side, board_carry] at able
  have recorded := record_game current piece source target
  unfold moved
  rw [recorded]
  simp only [game, able, afterPly, board_carry, List.map_append, List.map_cons, List.map_nil,
    opponent_eq_iff, Game.mk.injEq, true_and]
  cases (current.board.carry source target).movable current.toMove.opponent <;> simp [status]

theorem settle_game (current : Game) (winner : Option Side) :
    (game current).settle ((game current).finish (winner.map Side.opponent)) =
      (answer (current.settle (current.finish winner)).1,
        game (current.settle (current.finish winner)).2) := by
  by_cases live : current.status = .inProgress
  · have imageLive : (game current).status = .inProgress := status_eq_inProgress_iff.mpr live
    rw [finish, finish, if_pos live, if_pos imageLive]
    rfl
  · have imageOver : (game current).status ≠ .inProgress := fun goesOn =>
      live (status_eq_inProgress_iff.mp goesOn)
    rw [finish, finish, if_neg live, if_neg imageOver]
    rfl

theorem winner?_action (request : Action) (toMove : Side) :
    (action request).winner? toMove.opponent =
      (request.winner? toMove).map (Option.map Side.opponent) := by
  cases request <;> rfl

/-- A sound game and its image answer an action and its image by images of each other, and lead to
images of each other. -/
theorem act_game (sound : current.Sound) (request : Action) :
    (game current).act (action request) =
      (answer (current.act request).1, game (current.act request).2) := by
  have imageDeclares := winner?_action request current.toMove
  cases declared : request.winner? current.toMove with
  | some winner =>
    rw [declared, Option.map_some] at imageDeclares
    rw [act_of_winner? declared, act_of_winner? imageDeclares, settle_game]
  | none =>
    cases request with
    | move source target =>
      rw [action]
      cases against : current.objection? source target with
      | some reason =>
        have objected := judged_iff.mp (judged_game sound (judged_iff.mpr against))
        have failed := sound.play_eq_error_iff.mpr ⟨reason, against, rfl⟩
        have imageFailed := (sound_game sound).play_eq_error_iff.mpr ⟨_, objected, rfl⟩
        rw [act_move_of_error failed, act_move_of_error imageFailed]
        rfl
      | none =>
        obtain ⟨piece, may⟩ := objection?_eq_none_iff.mp against
        have played := sound.play_eq_ok_iff.mpr ⟨piece, may, rfl, rfl⟩
        have imagePlayed := (sound_game sound).play_eq_ok_iff.mpr
          ⟨_, mayMove_game sound may, rfl, rfl⟩
        rw [record_game, moved_game sound may] at imagePlayed
        rw [act_move_of_ok played, act_move_of_ok imagePlayed]
        rfl
    | resign => cases declared
    | resignSide side => cases declared
    | agreeDraw => cases declared

theorem run_game (sound : current.Sound) (requests : List Action) :
    (game current).run (requests.map action) = game (current.run requests) := by
  induction requests generalizing current with
  | nil => rfl
  | cons request rest ih =>
    rw [List.map_cons, run_cons, run_cons, act_game sound]
    exact ih (sound.act request)

theorem answers_game (sound : current.Sound) (requests : List Action) :
    (game current).answers (requests.map action) = (current.answers requests).map answer := by
  induction requests generalizing current with
  | nil => rfl
  | cons request rest ih =>
    rw [List.map_cons, answers, answers, List.map_cons, act_game sound]
    simp only [ih (sound.act request)]

/-- The image of a start is the start from the image. -/
theorem ofBoard_board {board : Board} {toMove : Side} {first : Game} (inPlace : board.InPlace)
    (started : ofBoard board toMove = .ok first) :
    ofBoard (halfTurn.board board) toMove.opponent = .ok (game first) := by
  obtain ⟨wellFormed, safe, rfl⟩ := (ofBoard_eq_ok_iff inPlace).mp started
  have sound : (start board toMove).Sound :=
    ⟨wellFormed, safe, fun record member => absurd member List.not_mem_nil⟩
  have image := sound_game sound
  exact (ofBoard_eq_ok_iff (halfTurn.inPlace_board inPlace)).mpr
    ⟨image.wellFormed, image.waitingSafe, rfl⟩

/-- The two sides are treated alike. Where a game can be started from a board that was built by the
operations on boards, one can be started from the image of the board by the other side, and it
answers the images of any actions by the images of the answers. After every run the two games have
images of each other as boards, statuses and histories, the same counters, opposite turns, and the
same check status for opposite sides. -/
theorem sides_symmetric {board : Board} {toMove : Side} {first : Game} (built : board.Built)
    (started : ofBoard board toMove = .ok first) :
    (halfTurn.board board).Built ∧
    ∃ second, ofBoard (halfTurn.board board) toMove.opponent = .ok second ∧
      ∀ requests,
        second.answers (requests.map action) = (first.answers requests).map answer ∧
        let here := first.run requests
        let there := second.run (requests.map action)
        there.board = halfTurn.board here.board ∧ there.plies = here.plies.map ply ∧
        there.plyCount = here.plyCount ∧ there.fullMoves = here.fullMoves ∧
        there.toMove = here.toMove.opponent ∧ there.status = status here.status ∧
        ∀ side, ∃ check, here.inCheck side = .ok check ∧
          there.inCheck side.opponent = .ok check := by
  have begun : first.Begun := .ofBoard built started
  refine ⟨halfTurn.built_board built, game first, ofBoard_board built.inPlace started, ?_⟩
  intro requests
  have sound : (first.run requests).Sound := begun.sound.run requests
  refine ⟨answers_game begun.sound requests, ?_⟩
  rw [run_game begun.sound]
  refine ⟨rfl, rfl, List.length_map ply, rfl, rfl, rfl, ?_⟩
  intro side
  obtain ⟨home, sole⟩ := sound.wellFormed.exists_soleGeneral side
  have same := halfTurn.inDanger_board sound.wellFormed.inPlace sole
  refine ⟨_, sound.inCheck_eq side, ?_⟩
  rw [(sound_game sound).inCheck_eq, ← same]
  rfl

/-- From the opening with Black to move: Black's cannon takes a horse, Red's chariot takes the
cannon, and Black resigns. The records are those of the same exchange begun by Red, but for the case
of the letters. -/
theorem sides_symmetric_exchange :
    (Board.opening {}).Built ∧ ofBoard (Board.opening {}) .red = .ok (Game.opening {}) ∧
    ∃ second, ofBoard (halfTurn.board (Board.opening {})) .black = .ok second ∧
      let there := second.run [.move ⟨2, 7⟩ ⟨9, 7⟩, .move ⟨9, 8⟩ ⟨9, 7⟩, .resign]
      there.plies.map Ply.wxf = ["c8+7", "R1.2"] ∧ there.status = .over (some .red) := by
  have built : (Board.opening {}).Built := .opening {}
  have started : ofBoard (Board.opening {}) .red = .ok (Game.opening {}) :=
    (ofBoard_eq_ok_iff built.inPlace).mpr
      ⟨Board.wellFormed_opening {}, inDanger_opening {} .black, rfl⟩
  obtain ⟨-, second, begun, images⟩ := sides_symmetric built started
  obtain ⟨-, -, plies, -, -, -, ended, -⟩ :=
    images [.move ⟨7, 1⟩ ⟨0, 1⟩, .move ⟨0, 0⟩ ⟨0, 1⟩, .resign]
  refine ⟨built, started, second, begun, ?_, ?_⟩
  · exact (congrArg (List.map Ply.wxf) plies).trans (by decide +kernel)
  · exact ended.trans (by decide +kernel)

end HalfTurn

end Xiangqi
