import Mathlib.Data.List.Induction
import Xiangqi.Proofs.History
import Xiangqi.Proofs.Listing

/-!
# How a game ends

Four actions share one status, and the first of them that ends the game is the last that does
anything: a game that is over answers every action with the same refusal. `Game.Ends` says which
actions end a game that goes on and who has won then. The verdict on the side that has to reply is
looked for after a move and at no other time. So a game in which a move has been made goes on only if
the side to move has a legal move, while a start is never searched.
-/

namespace Xiangqi.Game

/-- The action ends a game that goes on, and `winner` has won; nobody wins a draw. -/
inductive Ends (game : Game) : Action → Option Side → Prop
  | draw : Ends game .agreeDraw none
  | resignedSide (winner : Side) : Ends game (.resignSide winner.opponent) (some winner)
  | resigned {winner : Side} (toMove : game.toMove = winner.opponent) :
      Ends game .resign (some winner)
  /-- The winner has moved, and on the new board its opponent has no legal move. -/
  | noReply {source target : Square} {ply : Ply} {next : Game}
      (played : game.play source target = .ok (ply, next))
      (stuck : next.board.legalMoves ply.side.opponent = .ok []) :
      Ends game (.move source target) (some ply.side)

/-- The action with number `i` turns a game that goes on into one that is over. -/
structure EndedBy (start : Game) (actions : List Action) (i : Nat) : Prop where
  live : (start.run (actions.take i)).status = .inProgress
  finished : (start.run (actions.take (i + 1))).status ≠ .inProgress

variable {start game next : Game} {action : Action} {actions : List Action}
  {source target : Square} {ply : Ply} {i j : Nat}

theorem act_of_over (finished : game.status ≠ .inProgress) (action : Action) :
    game.act action = (.failed (.refused .gameOver), game) := by
  cases declared : action.winner? game.toMove with
  | none =>
    obtain ⟨source, target, rfl⟩ := Action.exists_move_of_winner? declared
    apply act_move_of_error
    simp only [play, mover, if_pos finished, bind, Except.bind]
  | some winner => rw [act_of_winner? declared, finish, if_neg finished, settle]

/-- A game that is over stays as it is, whatever is asked of it. -/
theorem run_of_over (finished : game.status ≠ .inProgress) (further : List Action) :
    game.run further = game ∧
      game.answers further = List.replicate further.length (.failed (.refused .gameOver)) := by
  induction further with
  | nil => exact ⟨rfl, rfl⟩
  | cons action rest ih =>
    have acted := act_of_over finished action
    refine ⟨?_, ?_⟩
    · rw [run_cons, acted]
      exact ih.1
    · rw [answers, acted, List.length_cons, List.replicate_succ]
      exact congrArg _ ih.2

/-- The status after a move: the mover has won unless some piece of the other side may move. -/
theorem Sound.status_of_play (sound : game.Sound)
    (played : game.play source target = .ok (ply, next)) :
    ply.side = game.toMove ∧ next.toMove = ply.side.opponent ∧
      next.status = if next.board.movable next.toMove then .inProgress else .over (some ply.side) := by
  obtain ⟨piece, may, rfl, rfl⟩ := sound.play_eq_ok_iff.mp played
  have owned : (game.record piece source target).side = game.toMove := may.owned
  rw [owned]
  refine ⟨rfl, rfl, ?_⟩
  simp only [moved, afterPly, may.live]
  cases (game.board.carry source target).movable game.toMove.opponent with
  | true => rfl
  | false => rfl

theorem Sound.noReply_iff (sound : game.Sound)
    (played : game.play source target = .ok (ply, next)) :
    next.board.legalMoves ply.side.opponent = .ok [] ↔ next.board.movable next.toMove = false := by
  have wellFormed := (sound.of_play played).wellFormed
  rw [(sound.status_of_play played).2.1]
  exact wellFormed.inPlace.legalMoves_eq_nil_iff (wellFormed.hasGeneral _)

/-- An action that declares a winner ends the game with this winner and no other. -/
theorem ends_iff_of_winner? {declared winner : Option Side}
    (declares : action.winner? game.toMove = some declared) :
    game.Ends action winner ↔ declared = winner := by
  cases action with
  | move source target => cases declares
  | resign =>
    cases declares
    constructor
    · intro ends
      cases ends with
      | resigned toMove => rw [toMove, Side.opponent_opponent]
    · rintro rfl
      exact .resigned (Side.opponent_opponent _).symm
  | resignSide side =>
    cases declares
    constructor
    · intro ends
      cases ends with
      | resignedSide winner => rw [Side.opponent_opponent]
    · rintro rfl
      have resigned : game.Ends (.resignSide side.opponent.opponent) (some side.opponent) :=
        .resignedSide side.opponent
      rw [Side.opponent_opponent] at resigned
      exact resigned
  | agreeDraw =>
    cases declares
    constructor
    · intro ends
      cases ends with
      | draw => rfl
    · rintro rfl
      exact .draw

theorem Sound.ends_iff_of_play (sound : game.Sound) {winner : Option Side}
    (played : game.play source target = .ok (ply, next)) :
    game.Ends (.move source target) winner ↔ next.status = .over winner := by
  have status := (sound.status_of_play played).2.2
  have stuck_iff := sound.noReply_iff played
  constructor
  · intro ends
    cases ends with
    | noReply accepted stuck =>
      rw [played] at accepted
      cases accepted
      rw [status, stuck_iff.mp stuck]
      rfl
  · intro finished
    cases movable : next.board.movable next.toMove with
    | true =>
      rw [status, movable] at finished
      cases finished
    | false =>
      rw [status, movable] at finished
      cases finished
      exact .noReply played (stuck_iff.mpr movable)

/-- What an action makes of the status of a game that goes on. -/
theorem Sound.status_act_iff (sound : game.Sound) (live : game.status = .inProgress)
    {winner : Option Side} :
    (game.act action).2.status = .over winner ↔ game.Ends action winner := by
  cases declares : action.winner? game.toMove with
  | some declared =>
    rw [ends_iff_of_winner? declares, act_of_winner? declares, finish, if_pos live, settle,
      Status.over.injEq]
  | none =>
    obtain ⟨source, target, rfl⟩ := Action.exists_move_of_winner? declares
    cases played : game.play source target with
    | error error =>
      rw [act_move_of_error played, live]
      constructor
      · intro finished
        cases finished
      · intro ends
        cases ends with
        | noReply accepted stuck =>
          rw [played] at accepted
          cases accepted
    | ok made =>
      obtain ⟨ply, next⟩ := made
      rw [act_move_of_ok played, sound.ends_iff_of_play played]

/-- Once the game is over, the rest of the run changes nothing. -/
theorem run_take_of_over (finished : (start.run (actions.take i)).status ≠ .inProgress)
    (later : i ≤ j) :
    start.run (actions.take j) = start.run (actions.take i) := by
  obtain ⟨k, rfl⟩ := Nat.exists_eq_add_of_le later
  rw [List.take_add, run_append]
  exact (run_of_over finished _).1

theorem EndedBy.unique (first : start.EndedBy actions i) (second : start.EndedBy actions j) :
    i = j := by
  rcases Nat.lt_trichotomy i j with before | same | after
  · exact absurd (run_take_of_over first.finished before ▸ second.live) first.finished
  · exact same
  · exact absurd (run_take_of_over second.finished after ▸ first.live) second.finished

theorem EndedBy.run_eq (ended : start.EndedBy actions i) :
    start.run actions = start.run (actions.take (i + 1)) := by
  rcases Nat.le_total (i + 1) actions.length with inside | beyond
  · have stays := run_take_of_over ended.finished inside
    rw [List.take_length] at stays
    exact stays
  · rw [List.take_of_length_le beyond]

/-- Of a game that goes on at first and is over at last, some action ended it. -/
theorem exists_endedBy (live : start.status = .inProgress)
    (finished : (start.run actions).status ≠ .inProgress) : ∃ i, start.EndedBy actions i := by
  by_contra never
  have goesOn : ∀ i, (start.run (actions.take i)).status = .inProgress := by
    intro i
    induction i with
    | zero => exact live
    | succ i ih =>
      by_contra closed
      exact never ⟨i, ih, closed⟩
  apply finished
  have atEnd := goesOn actions.length
  rw [List.take_length] at atEnd
  exact atEnd

theorem EndedBy.status_iff (sound : start.Sound) (ended : start.EndedBy actions i)
    (asked : actions[i]? = some action) {winner : Option Side} :
    (start.run actions).status = .over winner ↔
      (start.run (actions.take i)).Ends action winner := by
  have last : actions.take (i + 1) = actions.take i ++ [action] := by
    rw [List.take_add_one, asked, Option.toList_some]
  rw [ended.run_eq, last, run_append, run_cons, run_nil]
  exact (sound.run _).status_act_iff ended.live

theorem Begun.status_eq (begun : start.Begun) : start.status = .inProgress := by
  obtain ⟨board, toMove, -, -, rfl⟩ := begun.exists_start
  rfl

/-- The status over a whole run. A game that is over answers every further action with the same
refusal and stays as it is. A game that goes on is ended by every resignation and every agreed draw,
and by a move that leaves no reply, each with the winner it declares, and by nothing else. So the game
is over exactly if some action of the run ended it, only one action did, and the winner is the one
whom that action declares. After a move the game goes on exactly if the opponent of the mover has a
legal move. -/
theorem status_history {start : Game} (begun : start.Begun) (actions : List Action) :
    let game := start.run actions
    (game.status ≠ .inProgress → ∀ further, game.run further = game ∧
      game.answers further = List.replicate further.length (.failed (.refused .gameOver))) ∧
    (game.status = .inProgress → ∀ action winner,
      (game.act action).2.status = .over winner ↔ game.Ends action winner) ∧
    (game.status ≠ .inProgress ↔ ∃ i, start.EndedBy actions i) ∧
    (∀ i j, start.EndedBy actions i → start.EndedBy actions j → i = j) ∧
    (∀ i, start.EndedBy actions i → ∃ action, actions[i]? = some action ∧
      ∀ winner, game.status = .over winner ↔ (start.run (actions.take i)).Ends action winner) ∧
    ∀ source target ply next, game.play source target = .ok (ply, next) →
      ∃ replies, next.board.legalMoves ply.side.opponent = .ok replies ∧
        (next.status = .inProgress ↔ replies ≠ []) := by
  intro game
  have sound : game.Sound := begun.sound.run actions
  refine ⟨run_of_over, fun live action winner => sound.status_act_iff live,
    ⟨exists_endedBy begun.status_eq, ?_⟩, fun i j => EndedBy.unique, ?_, ?_⟩
  · rintro ⟨i, ended⟩
    have finished := ended.finished
    rw [← ended.run_eq] at finished
    exact finished
  · intro i ended
    cases asked : actions[i]? with
    | none =>
      -- Past the end of the run there is no action that could end it.
      have beyond := List.getElem?_eq_none_iff.mp asked
      have live := ended.live
      have finished := ended.finished
      rw [List.take_of_length_le (by omega)] at live finished
      exact absurd live finished
    | some action => exact ⟨action, rfl, fun winner => ended.status_iff begun.sound asked⟩
  · intro source target ply next played
    obtain ⟨-, toMove, status⟩ := sound.status_of_play played
    have stuck_iff := sound.noReply_iff played
    have listed := (sound.of_play played).legalMoves_eq ply.side.opponent
    refine ⟨_, listed, ?_⟩
    rw [listed, Except.ok.injEq] at stuck_iff
    rw [status, Ne, stuck_iff]
    cases next.board.movable next.toMove with
    | true => simp
    | false => simp

/-- A chariot cannot go diagonally, then mates along the back rank, and Red's resignation comes too
late: the second action has ended the game, and Red has won. In place of the mate the game is ended as
well by Red, who is to move and resigns, by Black, who resigns while it waits, and by a draw. -/
theorem status_history_four_endings :
    let refused : List Action := [.move ⟨5, 0⟩ ⟨4, 1⟩]
    let mated := refused ++ [.move ⟨5, 0⟩ ⟨0, 0⟩, .resign]
    ∃ start : Game, start.Begun ∧ (start.run mated).status = .over (some .red) ∧
      (∃ i action, start.EndedBy mated i ∧ mated[i]? = some action ∧
        (start.run (mated.take i)).Ends action (some .red)) ∧
      (start.run refused).status = .inProgress ∧
      (start.run (refused ++ [.resign])).status = .over (some .black) ∧
      (start.run (refused ++ [.resignSide .black])).status = .over (some .red) ∧
      (start.run (refused ++ [.agreeDraw])).status = .over none := by
  intro refused mated
  have outcome : (Game.ofPlacement [⟨.general, .red, 9, 3⟩, ⟨.general, .black, 0, 4⟩,
      ⟨.chariot, .red, 1, 8⟩, ⟨.chariot, .red, 5, 0⟩] {}).toOption.map (fun start =>
        ((start.run mated).status, (start.run refused).status, (start.run refused).toMove)) =
      some (.over (some .red), .inProgress, .red) := by
    decide +kernel
  obtain ⟨start, started, seen⟩ := Fallible.exists_ok_of_map_eq_some outcome
  simp only [Prod.mk.injEq] at seen
  obtain ⟨won, live, toMove⟩ := seen
  have begun : start.Begun := .ofPlacement started
  obtain ⟨-, -, over_iff, -, declares, -⟩ := status_history begun mated
  obtain ⟨i, ended⟩ := over_iff.mp (by rw [won]; exact nofun)
  obtain ⟨action, asked, ends⟩ := declares i ended
  obtain ⟨-, ended_iff, -⟩ := status_history begun refused
  refine ⟨start, begun, won, ⟨i, action, ended, asked, (ends _).mp won⟩, live, ?_, ?_, ?_⟩
  · rw [run_append]
    exact (ended_iff live .resign (some .black)).mpr (.resigned toMove)
  · rw [run_append]
    exact (ended_iff live (.resignSide .black) (some .red)).mpr (.resignedSide .red)
  · rw [run_append]
    exact (ended_iff live .agreeDraw none).mpr .draw

/-- While a game goes on, it is still at its start, or a move was made and the side to move has an
answer to it. -/
theorem Sound.live_cases (sound : start.Sound) (fresh : start.plies = []) (actions : List Action)
    (live : (start.run actions).status = .inProgress) :
    let game := start.run actions
    (game.plies = [] ∧ game.board = start.board ∧ game.toMove = start.toMove) ∨
      (game.plies ≠ [] ∧ game.board.movable game.toMove = true) := by
  induction actions using List.reverseRecOn with
  | nil => exact .inl ⟨fresh, rfl, rfl⟩
  | append_singleton earlier action ih =>
    rw [run_append, run_cons, run_nil] at live ⊢
    rcases (start.run earlier).act_cases action with ⟨error, acted⟩ |
      ⟨source, target, ply, next, -, played, acted⟩ | ⟨winner, -, -, acted⟩
    · rw [acted] at live ⊢
      exact ih live
    · rw [acted] at live ⊢
      obtain ⟨-, -, -, -, grown⟩ := (sound.run earlier).record_of_play played
      have status := ((sound.run earlier).status_of_play played).2.2
      refine .inr ⟨by simp [grown], ?_⟩
      cases movable : next.board.movable next.toMove with
      | true => rfl
      | false =>
        rw [movable, live] at status
        cases status
    · rw [acted] at live
      cases live

theorem movable_opening (rules : Rules) (side : Side) :
    (Board.opening rules).movable side = true := by
  obtain ⟨legBlocking⟩ := rules
  cases legBlocking <;> cases side <;> decide +kernel

/-- While a game goes on, the side to move has a legal move, except in a game without moves whose
start left none to its first mover. The opening is not such a start. -/
theorem live_game_has_move {start : Game} (begun : start.Begun) (actions : List Action)
    (live : (start.run actions).status = .inProgress) :
    let game := start.run actions
    ∃ moves, game.legalMoves = .ok moves ∧
      (moves = [] ↔ game.plies = [] ∧ start.legalMoves = .ok []) ∧
      ∀ settings, start = Game.opening settings → moves ≠ [] := by
  intro game
  have sound : game.Sound := begun.sound.run actions
  have wellFormed := sound.wellFormed
  obtain ⟨moves, listed⟩ : ∃ moves, game.legalMoves = .ok moves :=
    ⟨_, sound.legalMoves_eq game.toMove⟩
  have none_iff : moves = [] ↔ game.board.movable game.toMove = false := by
    have stuck_iff := wellFormed.inPlace.legalMoves_eq_nil_iff (wellFormed.hasGeneral game.toMove)
    rw [← legalMoves, listed, Except.ok.injEq] at stuck_iff
    exact stuck_iff
  have stands := begun.sound.live_cases begun.plies_eq_nil actions live
  refine ⟨moves, listed, ?_, ?_⟩
  · rcases stands with ⟨fresh, sameBoard, sameSide⟩ | ⟨grown, movable⟩
    · have same : game.legalMoves = start.legalMoves := by
        rw [legalMoves, legalMoves, sameBoard, sameSide]
      rw [← same, listed, Except.ok.injEq]
      exact (and_iff_right fresh).symm
    · rw [none_iff, movable]
      exact ⟨fun stuck => (by cases stuck), fun fresh => absurd fresh.1 grown⟩
  · rintro settings rfl
    rw [Ne, none_iff, Bool.not_eq_false]
    rcases stands with ⟨-, sameBoard, sameSide⟩ | ⟨-, movable⟩
    · rw [sameBoard, sameSide]
      exact movable_opening _ _
    · exact movable

/-- After a capture in the opening Black has a legal move. -/
theorem live_game_has_move_capture :
    (Game.opening {}).Begun ∧
    let game := (Game.opening {}).run [.move ⟨7, 1⟩ ⟨0, 1⟩]
    game.status = .inProgress ∧ ∃ moves, game.legalMoves = .ok moves ∧ moves ≠ [] := by
  have live : ((Game.opening {}).run [.move ⟨7, 1⟩ ⟨0, 1⟩]).status = .inProgress := by
    decide +kernel
  obtain ⟨moves, listed, -, some_move⟩ := live_game_has_move (.opening {}) _ live
  exact ⟨.opening {}, live, moves, listed, some_move {} rfl⟩

/-- A start is not searched: Black's general has nowhere to go and Black is to move, but the game is in
progress. -/
theorem stuck_start_in_progress :
    ∃ start, Game.ofPlacement [⟨.general, .red, 9, 4⟩, ⟨.general, .black, 0, 3⟩,
        ⟨.chariot, .red, 1, 8⟩] { firstToMove := .black } = .ok start ∧ start.Begun ∧
      (start.run []).status = .inProgress ∧ (start.run []).legalMoves = .ok [] := by
  have outcome : (Game.ofPlacement [⟨.general, .red, 9, 4⟩, ⟨.general, .black, 0, 3⟩,
      ⟨.chariot, .red, 1, 8⟩] { firstToMove := .black }).toOption.map
        (fun start => ((start.run []).status, (start.run []).legalMoves.toOption)) =
      some (.inProgress, some []) := by
    decide +kernel
  obtain ⟨start, started, seen⟩ := Fallible.exists_ok_of_map_eq_some outcome
  simp only [Prod.mk.injEq] at seen
  obtain ⟨live, stuck⟩ := seen
  exact ⟨start, started, .ofPlacement started, live, Fallible.eq_ok_of_toOption_eq_some stuck⟩

end Xiangqi.Game
