import Xiangqi.Proofs.Board.Built
import Xiangqi.Proofs.Play

/-!
# Runs of a game

A host drives a game by actions: moves, resignations and an agreed draw, in any order and number.
`Game.act` answers one action and `Game.run` carries out a list of them. An action fails and leaves
the game as it was, or makes a move, or ends the game without one (`act_cases`). A game that has just
begun is sound, so by induction every game that a run leads to is sound as well.
-/

namespace Xiangqi.Game

open Fallible

/-- What a host may ask of a game. -/
inductive Action where
  | move (source target : Square)
  | resign
  | resignSide (side : Side)
  | agreeDraw
deriving DecidableEq

/-- What a host is told: the move that was made, how the game ended, or why nothing happened. -/
inductive Answer where
  | made (ply : Ply)
  | ended (status : Status)
  | failed (error : MoveError)
deriving DecidableEq

def settle (game : Game) : Except Refusal Game → Answer × Game
  | .ok next => (.ended next.status, next)
  | .error reason => (.failed (.refused reason), game)

/-- Answer an action; a failed action leaves the game as it was. -/
def act (game : Game) : Action → Answer × Game
  | .move source target =>
    match game.play source target with
    | .ok (ply, next) => (.made ply, next)
    | .error error => (.failed error, game)
  | .resign => game.settle game.resign
  | .resignSide side => game.settle (game.resignSide side)
  | .agreeDraw => game.settle game.agreeDraw

/-- The game after a list of actions. -/
def run (game : Game) (actions : List Action) : Game :=
  actions.foldl (fun game action => (game.act action).2) game

/-- The answers to a list of actions, one for each. -/
def answers (game : Game) : List Action → List Answer
  | [] => []
  | action :: rest => (game.act action).1 :: (game.act action).2.answers rest

/-- The winner that an action other than a move declares when the given side is to move. -/
def Action.winner? (toMove : Side) : Action → Option (Option Side)
  | .move _ _ => none
  | .resign => some (some toMove.opponent)
  | .resignSide side => some (some side.opponent)
  | .agreeDraw => some none

theorem Action.exists_move_of_winner? {action : Action} {toMove : Side}
    (silent : action.winner? toMove = none) : ∃ source target, action = .move source target := by
  cases action with
  | move source target => exact ⟨source, target, rfl⟩
  | resign => cases silent
  | resignSide side => cases silent
  | agreeDraw => cases silent

/-- A game that has just begun: from the opening, from a placement, or from a board that was built
by the operations on boards. -/
inductive Begun : Game → Prop
  | opening (settings : Settings) : Begun (Game.opening settings)
  | ofPlacement {placement : Placement} {settings : Settings} {game : Game}
      (started : Game.ofPlacement placement settings = .ok game) : Begun game
  | ofBoard {board : Board} {toMove : Side} {game : Game} (built : board.Built)
      (started : Game.ofBoard board toMove = .ok game) : Begun game

@[simp] theorem run_nil (game : Game) : game.run [] = game := rfl

@[simp] theorem run_cons (game : Game) (action : Action) (rest : List Action) :
    game.run (action :: rest) = (game.act action).2.run rest := rfl

theorem run_append (game : Game) (first second : List Action) :
    game.run (first ++ second) = (game.run first).run second := by
  rw [run, run, run, List.foldl_append]

theorem answers_append (game : Game) (first second : List Action) :
    game.answers (first ++ second) = game.answers first ++ (game.run first).answers second := by
  induction first generalizing game with
  | nil => rfl
  | cons action rest ih => rw [List.cons_append, answers, answers, ih, run_cons, List.cons_append]

theorem act_move_of_ok {game next : Game} {source target : Square} {ply : Ply}
    (played : game.play source target = .ok (ply, next)) :
    game.act (.move source target) = (.made ply, next) := by
  simp only [act, played]

theorem act_move_of_error {game : Game} {source target : Square} {error : MoveError}
    (failed : game.play source target = .error error) :
    game.act (.move source target) = (.failed error, game) := by
  simp only [act, failed]

theorem exists_play_of_made {game : Game} {source target : Square} {ply : Ply}
    (made : (game.act (.move source target)).1 = .made ply) :
    ∃ next, game.play source target = .ok (ply, next) := by
  cases played : game.play source target with
  | ok result =>
    obtain ⟨record, next⟩ := result
    rw [act_move_of_ok played] at made
    cases made
    exact ⟨next, rfl⟩
  | error error =>
    rw [act_move_of_error played] at made
    cases made

/-- Every action but a move ends the game with the winner it declares. -/
theorem act_of_winner? {game : Game} {action : Action} {winner : Option Side}
    (declares : action.winner? game.toMove = some winner) :
    game.act action = game.settle (game.finish winner) := by
  cases action with
  | move source target => cases declares
  | resign => cases declares; rfl
  | resignSide side => cases declares; rfl
  | agreeDraw => cases declares; rfl

/-- Only a game that goes on is ended. -/
theorem status_of_finish {game next : Game} {winner : Option Side}
    (finished : game.finish winner = .ok next) :
    game.status = .inProgress ∧ next.status = .over winner := by
  unfold finish at finished
  split at finished
  · rename_i live
    cases finished
    exact ⟨live, rfl⟩
  · cases finished

theorem over_of_finish_eq_error {game : Game} {winner : Option Side} {reason : Refusal}
    (refused : game.finish winner = .error reason) : game.status ≠ .inProgress := by
  intro live
  rw [finish, if_pos live] at refused
  cases refused

/-- Whatever winner a game ends with, some action ends it so. -/
theorem exists_act_of_finish {game next : Game} {winner : Option Side}
    (finished : game.finish winner = .ok next) :
    ∃ action, game.act action = (.ended next.status, next) := by
  cases winner with
  | none => exact ⟨.agreeDraw, by rw [act_of_winner? rfl, finished, settle]⟩
  | some side =>
    refine ⟨.resignSide side.opponent, ?_⟩
    rw [act_of_winner? rfl, Side.opponent_opponent, finished, settle]

/-- All that an action can do: nothing, one move, or the end of the game. -/
theorem act_cases (game : Game) (action : Action) :
    (∃ error, game.act action = (.failed error, game)) ∨
    (∃ source target ply next, action = .move source target ∧
      game.play source target = .ok (ply, next) ∧ game.act action = (.made ply, next)) ∨
    ∃ winner, action.winner? game.toMove = some winner ∧ game.status = .inProgress ∧
      game.act action = (.ended (.over winner), { game with status := .over winner }) := by
  cases declared : action.winner? game.toMove with
  | none =>
    obtain ⟨source, target, rfl⟩ := Action.exists_move_of_winner? declared
    cases played : game.play source target with
    | error error => exact .inl ⟨error, act_move_of_error played⟩
    | ok made =>
      obtain ⟨ply, next⟩ := made
      exact .inr (.inl ⟨source, target, ply, next, rfl, played, act_move_of_ok played⟩)
  | some winner =>
    rw [act_of_winner? declared]
    by_cases live : game.status = .inProgress
    · refine .inr (.inr ⟨winner, rfl, live, ?_⟩)
      rw [finish, if_pos live, settle]
    · refine .inl ⟨.refused .gameOver, ?_⟩
      rw [finish, if_neg live, settle]

theorem Sound.act {game : Game} (sound : game.Sound) (action : Action) :
    (game.act action).2.Sound := by
  rcases game.act_cases action with ⟨error, acted⟩ | ⟨source, target, ply, next, -, played, acted⟩ |
    ⟨winner, -, -, acted⟩
  · rw [acted]
    exact sound
  · rw [acted]
    exact sound.of_play played
  · rw [acted]
    exact ⟨sound.wellFormed, sound.waitingSafe, sound.generalsSpared⟩

/-- A run keeps a game sound. -/
theorem Sound.run {game : Game} (sound : game.Sound) (actions : List Action) :
    (game.run actions).Sound := by
  induction actions generalizing game with
  | nil => exact sound
  | cons action rest ih => exact ih (sound.act action)

/-- What a legal move keeps true of the board is true of it throughout the run: the other actions leave
the board as it is. -/
theorem Sound.board_run (property : Board → Prop)
    (kept : ∀ {game : Game} {piece : Piece} {source target : Square}, game.Sound →
      game.MayMove piece source target → property game.board →
      property (game.board.carry source target))
    {game : Game} (sound : game.Sound) (holds : property game.board) (actions : List Action) :
    property (game.run actions).board := by
  induction actions generalizing game with
  | nil => exact holds
  | cons action rest ih =>
    have next : property (game.act action).2.board := by
      rcases game.act_cases action with ⟨error, acted⟩ |
        ⟨source, target, ply, next, -, played, acted⟩ | ⟨winner, -, -, acted⟩
      · rw [acted]
        exact holds
      · obtain ⟨piece, may, -, rfl⟩ := sound.play_eq_ok_iff.mp played
        rw [acted]
        exact kept sound may holds
      · rw [acted]
        exact holds
    exact ih (sound.act action) next

/-- On a well-formed board, only the check of the waiting side is left to be looked at. -/
theorem ofBoard_of_wellFormed {board : Board} (wellFormed : board.WellFormed) (toMove : Side) :
    ofBoard board toMove = if board.inDanger toMove.opponent then
      .error (.waitingSideInCheck toMove.opponent) else .ok (start board toMove) := by
  have checked := Board.checkGenerals_eq_ok_iff.mpr wellFormed.oneGeneral
  have judged := wellFormed.inPlace.inCheck_eq (wellFormed.hasGeneral toMove.opponent)
  simp only [ofBoard, checked, judged, bind, Except.bind]
  cases board.inDanger toMove.opponent <;> rfl

/-- A board is accepted as a start exactly if each side has one general and the side that waits is
out of danger. -/
theorem ofBoard_eq_ok_iff {board : Board} (inPlace : board.InPlace) {toMove : Side} {game : Game} :
    ofBoard board toMove = .ok game ↔
      board.WellFormed ∧ board.inDanger toMove.opponent = false ∧ game = start board toMove := by
  have begins (wellFormed : board.WellFormed) : ofBoard board toMove = .ok game ↔
      board.inDanger toMove.opponent = false ∧ game = start board toMove := by
    rw [ofBoard_of_wellFormed wellFormed]
    cases board.inDanger toMove.opponent <;> simp [eq_comm]
  constructor
  · intro started
    obtain ⟨_, checked, -⟩ := bind_eq_ok_iff.mp started
    have wellFormed : board.WellFormed := ⟨inPlace, Board.checkGenerals_eq_ok_iff.mp checked⟩
    exact ⟨wellFormed, (begins wellFormed).mp started⟩
  · intro accepted
    exact (begins accepted.1).mpr accepted.2

theorem inDanger_opening (rules : Rules) (side : Side) :
    (Board.opening rules).inDanger side = false := by
  obtain ⟨legBlocking⟩ := rules
  cases legBlocking <;> cases side <;> decide +kernel

/-- A game that has just begun is the start from a well-formed board whose waiting side is out of
danger. -/
theorem Begun.exists_start {game : Game} (begun : game.Begun) :
    ∃ board toMove, board.WellFormed ∧ board.inDanger toMove.opponent = false ∧
      game = start board toMove := by
  cases begun with
  | opening settings =>
    exact ⟨Board.opening settings.rules, settings.firstToMove, Board.wellFormed_opening _,
      inDanger_opening _ _, rfl⟩
  | @ofPlacement placement settings _ started =>
    obtain ⟨board, placed, fromBoard⟩ := bind_eq_ok_iff.mp started
    have wellFormed := Board.wellFormed_of_ofPlacement placed
    exact ⟨board, settings.firstToMove, (ofBoard_eq_ok_iff wellFormed.inPlace).mp fromBoard⟩
  | @ofBoard board toMove _ built started =>
    exact ⟨board, toMove, (ofBoard_eq_ok_iff built.inPlace).mp started⟩

theorem Begun.sound {game : Game} (begun : game.Begun) : game.Sound := by
  obtain ⟨board, toMove, wellFormed, safe, rfl⟩ := begun.exists_start
  exact ⟨wellFormed, safe, fun ply member => absurd member List.not_mem_nil⟩

end Xiangqi.Game
