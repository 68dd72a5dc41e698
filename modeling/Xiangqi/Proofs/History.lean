import Mathlib.Data.List.Induction
import Xiangqi.Proofs.Run

/-!
# The history as a log

The records of a game are enough to play it again. Refused actions leave no record and endings
without a move change only the status, so playing the recorded moves from the same start gives the
same records and leads to the same game, up to its status. Each record also says what the board held
when its move was made: `Ply.Names`.
-/

namespace Xiangqi

/-- The record names what the board holds: the piece on its source, whatever stands on its target,
and the notation of the move on this board. -/
structure Ply.Names (ply : Ply) (board : Board) : Prop where
  mover : ∃ piece, board.pieceOn ply.source = some piece ∧ ply.kind = piece.kind ∧
    ply.side = piece.side
  captured : ply.captured = (board.pieceOn ply.target).map Piece.kind
  wxf : Notation.describe? board ply.source ply.target = some ply.wxf

namespace Game

def replay (plies : List Ply) : List Action :=
  plies.map fun ply => .move ply.source ply.target

/-- Playing the records of `game` from `start` is accepted record by record, and leads to `game`
itself while it goes on, and to `game` up to its status when it is over. -/
structure Replays (start game : Game) : Prop where
  answers_eq : start.answers (replay game.plies) = game.plies.map .made
  run_eq : start.run (replay game.plies) =
    { game with status := (start.run (replay game.plies)).status }
  run_eq_of_live : game.status = .inProgress → start.run (replay game.plies) = game

variable {start game next : Game} {source target : Square} {ply : Ply}

/-- A move is accepted only while the game goes on; its record names the squares and what the board
held, and comes last in the history. -/
theorem Sound.record_of_play (sound : game.Sound)
    (played : game.play source target = .ok (ply, next)) :
    game.status = .inProgress ∧ ply.source = source ∧ ply.target = target ∧
      ply.Names game.board ∧ next.plies = game.plies ++ [ply] := by
  obtain ⟨piece, may, rfl, rfl⟩ := sound.play_eq_ok_iff.mp played
  have written : Notation.describe? game.board source target =
      some (game.record piece source target).wxf := by
    simp only [record, plyOf, Notation.describe?, may.stands, Option.map_some, Option.getD_some]
  exact ⟨may.live, rfl, rfl, ⟨⟨piece, may.stands, rfl, rfl⟩, rfl, written⟩, rfl⟩

theorem Replays.refl (fresh : start.plies = []) : Replays start start := by
  have nothing : replay start.plies = [] := by rw [fresh, replay, List.map_nil]
  refine ⟨?_, ?_, fun _ => ?_⟩
  · rw [nothing, fresh, answers, List.map_nil]
  · rw [nothing, run_nil]
  · rw [nothing, run_nil]

/-- After an accepted move the new record is replayed as well. -/
theorem Replays.of_play (replays : Replays start game) (sound : game.Sound)
    (played : game.play source target = .ok (ply, next)) : Replays start next := by
  obtain ⟨live, rfl, rfl, -, grown⟩ := sound.record_of_play played
  have before := replays.run_eq_of_live live
  have acted := act_move_of_ok played
  have after : start.run (replay next.plies) = next := by
    rw [grown, replay, List.map_append, run_append]
    change (start.run (replay game.plies)).run [.move ply.source ply.target] = next
    rw [before, run_cons, acted, run_nil]
  refine ⟨?_, by rw [after], fun _ => after⟩
  rw [grown, replay, List.map_append, answers_append]
  change start.answers (replay game.plies) ++
    (start.run (replay game.plies)).answers [.move ply.source ply.target] = _
  rw [replays.answers_eq, before, answers, acted, List.map_append]
  rfl

/-- Ending the game without a move leaves nothing new to replay. -/
theorem Replays.of_ended (replays : Replays start game) (live : game.status = .inProgress)
    (winner : Option Side) : Replays start { game with status := .over winner } := by
  refine ⟨replays.answers_eq, ?_, fun goesOn => by cases goesOn⟩
  have same := replays.run_eq_of_live live
  rw [same]

/-- Every game that a run leads to is replayed from its start. -/
theorem Replays.run (sound : start.Sound) (fresh : start.plies = []) (actions : List Action) :
    Replays start (start.run actions) := by
  induction actions using List.reverseRecOn with
  | nil => exact .refl fresh
  | append_singleton earlier action ih =>
    rw [run_append, run_cons, run_nil]
    rcases (start.run earlier).act_cases action with ⟨error, acted⟩ |
      ⟨source, target, ply, next, -, played, acted⟩ | ⟨winner, -, live, acted⟩
    · rw [acted]
      exact ih
    · rw [acted]
      exact ih.of_play (sound.run earlier) played
    · rw [acted]
      exact ih.of_ended live winner

/-- Each record comes from the action of the run that made its move. -/
theorem exists_action_of_ply (sound : start.Sound) (fresh : start.plies = [])
    (actions : List Action) {i : Nat} (recorded : (start.run actions).plies[i]? = some ply) :
    ∃ earlier later, actions = earlier ++ .move ply.source ply.target :: later ∧
      (start.run earlier).plies = (start.run actions).plies.take i ∧
      ply.Names (start.run earlier).board := by
  induction actions using List.reverseRecOn with
  | nil =>
    rw [run_nil, fresh] at recorded
    cases recorded
  | append_singleton earlier action ih =>
    rw [run_append, run_cons, run_nil] at recorded ⊢
    -- A record that was there before the last action is found by the hypothesis.
    have older : ∀ (same : (start.run earlier).plies[i]? = some ply)
        (agrees : ((start.run earlier).act action).2.plies.take i =
          (start.run earlier).plies.take i),
        ∃ before later, earlier ++ [action] = before ++ .move ply.source ply.target :: later ∧
          (start.run before).plies = ((start.run earlier).act action).2.plies.take i ∧
          ply.Names (start.run before).board := by
      intro same agrees
      obtain ⟨before, later, split, shorter, names⟩ := ih same
      refine ⟨before, later ++ [action], ?_, shorter.trans agrees.symm, names⟩
      rw [split, List.append_assoc, List.cons_append]
    rcases (start.run earlier).act_cases action with ⟨error, acted⟩ |
      ⟨source, target, last, next, rfl, played, acted⟩ | ⟨winner, -, -, acted⟩
    · rw [acted] at recorded older ⊢
      exact older recorded rfl
    · obtain ⟨-, rfl, rfl, names, grown⟩ := (sound.run earlier).record_of_play played
      rw [acted] at recorded older ⊢
      rcases Nat.lt_or_ge i (start.run earlier).plies.length with inside | beyond
      · rw [grown, List.getElem?_append_left inside] at recorded
        rw [grown, List.take_append_of_le_length (Nat.le_of_lt inside)] at older ⊢
        exact older recorded rfl
      · rw [grown, List.getElem?_append_right beyond, List.getElem?_singleton] at recorded
        split at recorded
        · rename_i atEnd
          cases recorded
          refine ⟨earlier, [], rfl, ?_, names⟩
          rw [grown, List.take_append_of_le_length (by omega), List.take_of_length_le (by omega)]
        · cases recorded
    · rw [acted] at recorded older ⊢
      exact older recorded rfl

theorem Begun.plies_eq_nil {game : Game} (begun : game.Begun) : game.plies = [] := by
  obtain ⟨board, toMove, -, -, rfl⟩ := begun.exists_start
  rfl

/-- The history of every run can be played from the same start: each recorded move is accepted with
exactly its record, and the game that it leads to has the same board, turn, counters and history.
The record with number `i` was made by an action of the run before which the history had the first
`i` records; it names what the board held then, which is the board of the replay at that point. -/
theorem history_replays {start : Game} (begun : start.Begun) (actions : List Action) :
    let game := start.run actions
    let again := start.run (replay game.plies)
    start.answers (replay game.plies) = game.plies.map .made ∧
    again.board = game.board ∧ again.toMove = game.toMove ∧ again.plyCount = game.plyCount ∧
    again.fullMoves = game.fullMoves ∧ again.plies = game.plies ∧
    ∀ i ply, game.plies[i]? = some ply →
      ∃ earlier later, actions = earlier ++ .move ply.source ply.target :: later ∧
        (start.run earlier).plies = game.plies.take i ∧
        (start.run earlier).board = (start.run (replay (game.plies.take i))).board ∧
        ply.Names (start.run earlier).board := by
  intro game again
  have fresh := begun.plies_eq_nil
  have replays : Replays start game := .run begun.sound fresh actions
  have same : again = { game with status := again.status } := replays.run_eq
  refine ⟨replays.answers_eq, ?_, ?_, ?_, ?_, ?_, ?_⟩
  · rw [same]
  · rw [same]
  · rw [same]
    rfl
  · rw [same]
  · rw [same]
  · intro i ply recorded
    obtain ⟨earlier, later, split, shorter, names⟩ :=
      exists_action_of_ply begun.sound fresh actions recorded
    have before : Replays start (start.run earlier) := .run begun.sound fresh earlier
    refine ⟨earlier, later, split, shorter, ?_, names⟩
    have reached := before.run_eq
    rw [shorter] at reached
    rw [reached]

/-- A capture, a move that is refused, a recapture and a resignation: two records, and the replay of
the two moves gives them again. -/
theorem history_replays_exchange :
    (Game.opening {}).Begun ∧
    let game := (Game.opening {}).run
      [.move ⟨7, 1⟩ ⟨0, 1⟩, .move ⟨9, 0⟩ ⟨8, 0⟩, .move ⟨0, 0⟩ ⟨0, 1⟩, .resign]
    game.plies.map Ply.wxf = ["C8+7", "r1.2"] ∧
    game.status = .over (some .black) ∧
    (Game.opening {}).answers (replay game.plies) = game.plies.map .made ∧
    ((Game.opening {}).run (replay game.plies)).board = game.board := by
  refine ⟨.opening {}, ?_⟩
  obtain ⟨accepted, board, -⟩ := history_replays (.opening {})
    [.move ⟨7, 1⟩ ⟨0, 1⟩, .move ⟨9, 0⟩ ⟨8, 0⟩, .move ⟨0, 0⟩ ⟨0, 1⟩, .resign]
  exact ⟨by decide +kernel, by decide +kernel, accepted, board⟩

end Game

end Xiangqi
