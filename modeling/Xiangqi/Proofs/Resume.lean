import Xiangqi.Proofs.Board.Entries
import Xiangqi.Proofs.Placement.RoundTrip
import Xiangqi.Proofs.Run

/-!
# Saving and resuming a game

A game that goes on is saved as the entries of its board, and resumed as a new game with the side to
move as its first mover. The new game has no history and its counters start again, but no answer looks
at them: games with the same board, turn and status answer every action alike (`Agrees.run`). That the
saved board is accepted as a start is what soundness says of it.
-/

namespace Xiangqi.Game

open Fallible

/-- The games differ at most in what has been played before. -/
structure Agrees (a b : Game) : Prop where
  board : a.board = b.board
  toMove : a.toMove = b.toMove
  status : a.status = b.status

/-- The same fault, or the same record and games that agree. -/
inductive MadeAlike {ε : Type} : Except ε (Ply × Game) → Except ε (Ply × Game) → Prop
  | failed (fault : ε) : MadeAlike (.error fault) (.error fault)
  | made (ply : Ply) {a b : Game} (agrees : a.Agrees b) : MadeAlike (.ok (ply, a)) (.ok (ply, b))

variable {game a b : Game} {ε α : Type}
  {left right : Except ε (Ply × Game)}

theorem MadeAlike.cases (alike : MadeAlike left right) :
    (∃ fault, left = .error fault ∧ right = .error fault) ∨
    ∃ ply next next', left = .ok (ply, next) ∧ right = .ok (ply, next') ∧ next.Agrees next' := by
  cases alike with
  | failed fault => exact .inl ⟨fault, rfl, rfl⟩
  | made ply agrees => exact .inr ⟨ply, _, _, rfl, rfl, agrees⟩

/-- The same step before both does not tell them apart. -/
theorem MadeAlike.bind {step : Except ε α} {f g : α → Except ε (Ply × Game)}
    (further : ∀ value, MadeAlike (f value) (g value)) : MadeAlike (step >>= f) (step >>= g) := by
  cases step with
  | error fault => exact .failed fault
  | ok value => exact further value

theorem Agrees.mover_eq (agrees : a.Agrees b) (source target : Square) :
    a.mover source target = b.mover source target := by
  rw [mover, mover, agrees.board, agrees.toMove, agrees.status]

theorem Agrees.plyOf_eq (agrees : a.Agrees b) (piece : Piece) (source target : Square)
    (captured : Option Piece) :
    a.plyOf piece source target captured = b.plyOf piece source target captured := by
  rw [plyOf, plyOf, agrees.board]

theorem Agrees.afterPly (agrees : a.Agrees b) (ply : Ply) (board : Board) (winner : Option Side) :
    (a.afterPly ply board winner).Agrees (b.afterPly ply board winner) where
  board := rfl
  toMove := congrArg Side.opponent agrees.toMove
  status := by simp only [Game.afterPly, agrees.status]

theorem Agrees.follow (agrees : a.Agrees b) (piece : Piece) (source target : Square) :
    MadeAlike (a.follow piece source target) (b.follow piece source target) := by
  rw [Game.follow, Game.follow, ← agrees.board, ← agrees.toMove]
  apply MadeAlike.bind
  rintro ⟨captured, board⟩
  apply MadeAlike.bind
  intro _
  apply MadeAlike.bind
  intro winner
  rw [← agrees.plyOf_eq]
  exact .made _ (agrees.afterPly _ board winner)

theorem Agrees.play (agrees : a.Agrees b) (source target : Square) :
    MadeAlike (a.play source target) (b.play source target) := by
  rw [Game.play, Game.play, ← agrees.mover_eq]
  apply MadeAlike.bind
  intro piece
  rcases (agrees.follow piece source target).cases with ⟨fault, left, right⟩ |
    ⟨ply, next, next', left, right, nextAgrees⟩
  · rw [left, right]
    exact .failed _
  · rw [left, right]
    exact .made ply nextAgrees

theorem Agrees.finish (agrees : a.Agrees b) (winner : Option Side) :
    (a.settle (a.finish winner)).1 = (b.settle (b.finish winner)).1 ∧
      (a.settle (a.finish winner)).2.Agrees (b.settle (b.finish winner)).2 := by
  by_cases live : b.status = .inProgress
  · rw [Game.finish, Game.finish, if_pos live, if_pos (agrees.status.trans live)]
    exact ⟨rfl, agrees.board, agrees.toMove, rfl⟩
  · rw [Game.finish, Game.finish, if_neg live, if_neg (agrees.status ▸ live)]
    exact ⟨rfl, agrees⟩

/-- Games that agree answer an action alike, and agree afterwards. -/
theorem Agrees.act (agrees : a.Agrees b) (action : Action) :
    (a.act action).1 = (b.act action).1 ∧ (a.act action).2.Agrees (b.act action).2 := by
  cases action with
  | move source target =>
    rcases (agrees.play source target).cases with ⟨error, left, right⟩ |
      ⟨ply, next, next', left, right, nextAgrees⟩
    · rw [act_move_of_error left, act_move_of_error right]
      exact ⟨rfl, agrees⟩
    · rw [act_move_of_ok left, act_move_of_ok right]
      exact ⟨rfl, nextAgrees⟩
  | resign =>
    have finished := agrees.finish (some a.toMove.opponent)
    rw [act_of_winner? rfl, act_of_winner? rfl, ← agrees.toMove]
    exact finished
  | resignSide side => exact agrees.finish (some side.opponent)
  | agreeDraw => exact agrees.finish none

/-- What has been played before never shows again. -/
theorem Agrees.run (agrees : a.Agrees b) (actions : List Action) :
    a.answers actions = b.answers actions ∧ (a.run actions).Agrees (b.run actions) := by
  induction actions generalizing a b with
  | nil => exact ⟨rfl, agrees⟩
  | cons action rest ih =>
    obtain ⟨sameAnswer, next⟩ := agrees.act action
    obtain ⟨sameAnswers, last⟩ := ih next
    refine ⟨?_, last⟩
    rw [answers, answers, sameAnswer, sameAnswers]

/-- The rules of the start hold throughout the game. -/
theorem Sound.rules_run (sound : game.Sound) (actions : List Action) :
    (game.run actions).board.rules = game.board.rules := by
  apply sound.board_run fun board => board.rules = game.board.rules
  · intro next piece source target _ _ same
    rw [Board.rules_carry, same]
  · rfl

/-- The board of a sound game is accepted as the start of another one. -/
theorem Sound.ofPlacement_entries (sound : game.Sound) {settings : Settings}
    (sameTurn : settings.firstToMove = game.toMove) (sameRules : settings.rules = game.board.rules) :
    Game.ofPlacement game.board.entries settings = .ok (Game.start game.board game.toMove) := by
  rw [Game.ofPlacement, bind_eq_ok_iff, sameTurn, sameRules]
  refine ⟨game.board, sound.wellFormed.ofPlacement_entries, ?_⟩
  rw [ofBoard_eq_ok_iff sound.wellFormed.inPlace]
  exact ⟨sound.wellFormed, sound.waitingSafe, rfl⟩

/-- A game that goes on can be saved and resumed. The entries of its board are read back from what is
written for them; started again with the same turn and rules, they give a game on the same board; and
whatever is asked from then on, the resumed game and the original one give the same answers and go on
to agree. -/
theorem saved_game_resumes {start : Game} (begun : start.Begun) (actions : List Action)
    (live : (start.run actions).status = .inProgress) {settings : Settings}
    (sameTurn : settings.firstToMove = (start.run actions).toMove)
    (sameRules : settings.rules = start.board.rules) :
    let game := start.run actions
    let entries := game.board.entries
    Placement.read (Placement.pretty entries) = .ok entries ∧
    ∃ resumed, Game.ofPlacement entries settings = .ok resumed ∧ resumed.board = game.board ∧
      ∀ further, resumed.answers further = game.answers further ∧
        (resumed.run further).Agrees (game.run further) := by
  intro game entries
  have sound : game.Sound := begun.sound.run actions
  have kept : settings.rules = game.board.rules :=
    sameRules.trans (begun.sound.rules_run actions).symm
  have agrees : (Game.start game.board game.toMove).Agrees game := ⟨rfl, rfl, live.symm⟩
  exact ⟨Placement.read_pretty entries, _, sound.ofPlacement_entries sameTurn kept, rfl, agrees.run⟩

/-- The game is saved after a capture in the opening, and the recapture answers alike. -/
theorem saved_game_resumes_recapture :
    (Game.opening {}).Begun ∧
    let game := (Game.opening {}).run [.move ⟨7, 1⟩ ⟨0, 1⟩]
    game.status = .inProgress ∧ game.toMove = .black ∧ game.board.entries.length = 31 ∧
    ∃ resumed, Game.ofPlacement game.board.entries { firstToMove := .black } = .ok resumed ∧
      resumed.answers [.move ⟨0, 0⟩ ⟨0, 1⟩] = game.answers [.move ⟨0, 0⟩ ⟨0, 1⟩] := by
  have live : ((Game.opening {}).run [.move ⟨7, 1⟩ ⟨0, 1⟩]).status = .inProgress := by
    decide +kernel
  have turn : Side.black = ((Game.opening {}).run [.move ⟨7, 1⟩ ⟨0, 1⟩]).toMove := by
    decide +kernel
  have pieces : ((Game.opening {}).run [.move ⟨7, 1⟩ ⟨0, 1⟩]).board.entries.length = 31 := by
    decide +kernel
  have sameRules : ({ firstToMove := .black } : Settings).rules = (Game.opening {}).board.rules := by
    decide +kernel
  obtain ⟨-, resumed, started, -, alike⟩ := saved_game_resumes (.opening {}) _ live turn sameRules
  exact ⟨.opening {}, live, turn.symm, pieces, resumed, started, (alike _).1⟩

end Xiangqi.Game
