import Xiangqi.Proofs.Ending
import Xiangqi.Proofs.Placement.Acceptance

/-!
# Turns and counters

Who is to move and what the counters show is settled by the number of moves made. The number of full
moves grows when the side to move is not the one that moved first; that this happens after every second
ply needs the turn as well, so `Game.Counted` says both at once. Refused moves, resignations and draws
leave turn and counters alone.
-/

namespace Xiangqi

/-- The side that makes the ply with the given number, counted from zero, if `first` makes the first. -/
def Side.onPly (first : Side) (number : Nat) : Side :=
  if number % 2 = 0 then first else first.opponent

@[simp] theorem Side.onPly_zero (first : Side) : first.onPly 0 = first := rfl

@[simp] theorem Side.onPly_succ (first : Side) (number : Nat) :
    first.onPly (number + 1) = (first.onPly number).opponent := by
  unfold onPly
  by_cases even : number % 2 = 0
  · have odd : (number + 1) % 2 ≠ 0 := by omega
    simp [even, odd]
  · have next : (number + 1) % 2 = 0 := by omega
    simp [even, next]

namespace Game

/-- The answer reports a move that was made. -/
def Answer.isMade : Answer → Bool
  | .made _ => true
  | _ => false

/-- The game has just begun, and `first` was chosen to make its first move. -/
inductive BegunBy (first : Side) : Game → Prop
  | opening {settings : Settings} (chosen : settings.firstToMove = first) :
      BegunBy first (Game.opening settings)
  | ofPlacement {placement : Placement} {settings : Settings} {game : Game}
      (started : Game.ofPlacement placement settings = .ok game)
      (chosen : settings.firstToMove = first) : BegunBy first game
  | ofBoard {board : Board} {game : Game} (built : board.Built)
      (started : Game.ofBoard board first = .ok game) : BegunBy first game

/-- Turn, records and counter are those that `first` and the number of plies call for. The counter starts
again from zero when its 32 bits run out. -/
structure Counted (first : Side) (game : Game) : Prop where
  firstToMove : game.firstToMove = first
  toMove : game.toMove = first.onPly game.plies.length
  movers : ∀ i ply, game.plies[i]? = some ply → ply.side = first.onPly i
  fullMoves : game.fullMoves = UInt32.ofNat (1 + game.plies.length / 2)

variable {first : Side} {start game next : Game} {source target : Square} {ply : Ply}
  {action : Action}

theorem BegunBy.begun (begun : BegunBy first start) : start.Begun := by
  cases begun with
  | opening chosen => exact .opening _
  | ofPlacement started chosen => exact .ofPlacement started
  | ofBoard built started => exact .ofBoard built started

theorem counted_start (board : Board) (first : Side) : Counted first (Game.start board first) where
  firstToMove := rfl
  toMove := (first.onPly_zero).symm
  movers := by simp [Game.start]
  fullMoves := by simp [Game.start]

theorem BegunBy.counted (begun : BegunBy first start) : Counted first start := by
  cases begun with
  | @opening settings chosen =>
    subst chosen
    exact counted_start _ _
  | @ofPlacement placement settings _ started chosen =>
    subst chosen
    obtain ⟨board, -, -, same⟩ := ofPlacement_eq_ok_iff.mp started
    subst same
    exact counted_start _ _
  | ofBoard built started =>
    obtain ⟨-, -, same⟩ := (ofBoard_eq_ok_iff built.inPlace).mp started
    subst same
    exact counted_start _ _

/-- A move adds a record of the side that was to move, and the counter grows unless that side moved
first. -/
theorem Sound.counters_of_play (sound : game.Sound)
    (played : game.play source target = .ok (ply, next)) :
    ply.side = game.toMove ∧ next.plies = game.plies ++ [ply] ∧
      next.toMove = game.toMove.opponent ∧ next.firstToMove = game.firstToMove ∧
      next.fullMoves =
        if game.toMove = game.firstToMove then game.fullMoves else game.fullMoves + 1 := by
  obtain ⟨piece, may, rfl, rfl⟩ := sound.play_eq_ok_iff.mp played
  exact ⟨may.owned, rfl, rfl, rfl, rfl⟩

/-- The counter grows with every second ply. -/
theorem Counted.of_play (counted : Counted first game) (sound : game.Sound)
    (played : game.play source target = .ok (ply, next)) : Counted first next := by
  obtain ⟨mover, grown, turn, sameFirst, counter⟩ := sound.counters_of_play played
  have length : next.plies.length = game.plies.length + 1 := by
    rw [grown, List.length_append, List.length_singleton]
  refine ⟨sameFirst.trans counted.firstToMove, ?_, ?_, ?_⟩
  · rw [turn, counted.toMove, length, Side.onPly_succ]
  · intro i other recorded
    rw [grown, List.getElem?_append] at recorded
    split at recorded
    · exact counted.movers i other recorded
    · rw [List.getElem?_singleton] at recorded
      split at recorded
      · cases recorded
        have atEnd : i = game.plies.length := by omega
        rw [mover, counted.toMove, atEnd]
      · cases recorded
  · rw [counter, counted.firstToMove, counted.toMove, counted.fullMoves, length]
    by_cases even : game.plies.length % 2 = 0
    · have same : (game.plies.length + 1) / 2 = game.plies.length / 2 := by omega
      simp [Side.onPly, even, same]
    · have more : 1 + (game.plies.length + 1) / 2 = 1 + game.plies.length / 2 + 1 := by omega
      rw [more, UInt32.ofNat_add]
      simp [Side.onPly, even, Side.opponent_ne]

/-- An action that makes no move leaves turn and counters alone. -/
theorem counters_act_of_unmade (game : Game) (unmade : (game.act action).1.isMade = false) :
    (game.act action).2 = { game with status := (game.act action).2.status } := by
  rcases game.act_cases action with ⟨error, acted⟩ | ⟨source, target, ply, next, -, -, acted⟩ |
    ⟨winner, -, -, acted⟩
  · rw [acted]
  · rw [acted] at unmade
    cases unmade
  · rw [acted]

theorem Counted.act (counted : Counted first game) (sound : game.Sound) (action : Action) :
    Counted first (game.act action).2 := by
  rcases game.act_cases action with ⟨error, acted⟩ | ⟨source, target, ply, next, -, played, acted⟩ |
    ⟨winner, -, -, acted⟩
  · rw [acted]
    exact counted
  · rw [acted]
    exact counted.of_play sound played
  · rw [acted]
    exact ⟨counted.firstToMove, counted.toMove, counted.movers, counted.fullMoves⟩

theorem Counted.run (counted : Counted first game) (sound : game.Sound) (actions : List Action) :
    Counted first (game.run actions) := by
  induction actions generalizing game with
  | nil => exact counted
  | cons action rest ih => exact ih (counted.act sound action) (sound.act action)

/-- A run adds as many records as moves are made. -/
theorem Sound.length_plies_run (sound : game.Sound) (actions : List Action) :
    (game.run actions).plies.length =
      game.plies.length + (game.answers actions).countP Answer.isMade := by
  induction actions generalizing game with
  | nil => rfl
  | cons action rest ih =>
    rw [run_cons, answers, List.countP_cons, ih (sound.act action)]
    rcases game.act_cases action with ⟨error, acted⟩ |
      ⟨source, target, ply, next, -, played, acted⟩ | ⟨winner, -, -, acted⟩
    · rw [acted]
      rfl
    · obtain ⟨-, grown, -⟩ := sound.counters_of_play played
      simp only [acted, grown, List.length_append, List.length_singleton, Answer.isMade, if_true]
      omega
    · rw [acted]
      rfl

/-- After `n` accepted moves of a run the history has `n` records, and the first mover is to move again
exactly if `n` is even. The records are by the first mover and its opponent in turn. As long as its 32
bits suffice, the number of full moves is one more than half of `n`. An action that makes no move changes
none of this. -/
theorem turns_follow_plies {first : Side} {start : Game} (begun : BegunBy first start)
    (actions : List Action) :
    let game := start.run actions
    let accepted := (start.answers actions).countP Answer.isMade
    game.plyCount = accepted ∧
    game.toMove = first.onPly accepted ∧
    (∀ i ply, game.plies[i]? = some ply → ply.side = first.onPly i) ∧
    (accepted < 2 ^ 33 - 2 → game.fullMoves.toNat = 1 + accepted / 2) ∧
    ∀ action, (game.act action).1.isMade = false →
      let next := (game.act action).2
      next.plyCount = game.plyCount ∧ next.toMove = game.toMove ∧ next.plies = game.plies ∧
        next.fullMoves = game.fullMoves := by
  intro game accepted
  have sound := begun.begun.sound
  have counted : Counted first game := begun.counted.run sound actions
  have length : game.plies.length = accepted := by
    have total := sound.length_plies_run actions
    rw [begun.begun.plies_eq_nil, List.length_nil, Nat.zero_add] at total
    exact total
  refine ⟨length, length ▸ counted.toMove, counted.movers, ?_, ?_⟩
  · intro inRange
    rw [counted.fullMoves, length]
    apply UInt32.toNat_ofNat_of_lt'
    have size : UInt32.size = 2 ^ 32 := rfl
    omega
  · intro action unmade next
    have kept : next = { game with status := next.status } := counters_act_of_unmade game unmade
    rw [kept]
    exact ⟨rfl, rfl, rfl, rfl⟩

/-- Black moves first and then tries to move again. After two more moves Red is to move in the second
full move, and Black's resignation changes nothing of that. -/
theorem turns_follow_plies_black_first :
    let start := Game.opening { firstToMove := .black }
    let game := start.run [.move ⟨3, 0⟩ ⟨4, 0⟩, .move ⟨3, 2⟩ ⟨4, 2⟩, .move ⟨6, 0⟩ ⟨5, 0⟩,
      .move ⟨2, 1⟩ ⟨2, 4⟩, .resignSide .black]
    BegunBy .black start ∧ 3 < 2 ^ 33 - 2 ∧ game.plyCount = 3 ∧ game.toMove = .red ∧
      game.fullMoves.toNat = 2 ∧ game.plies[2]?.map Ply.side = some .black := by
  intro start game
  have begun : BegunBy .black start := .opening rfl
  obtain ⟨plies, toMove, -, fullMoves, -⟩ := turns_follow_plies begun
    [.move ⟨3, 0⟩ ⟨4, 0⟩, .move ⟨3, 2⟩ ⟨4, 2⟩, .move ⟨6, 0⟩ ⟨5, 0⟩, .move ⟨2, 1⟩ ⟨2, 4⟩,
      .resignSide .black]
  have accepted : (start.answers [.move ⟨3, 0⟩ ⟨4, 0⟩, .move ⟨3, 2⟩ ⟨4, 2⟩, .move ⟨6, 0⟩ ⟨5, 0⟩,
      .move ⟨2, 1⟩ ⟨2, 4⟩, .resignSide .black]).countP Answer.isMade = 3 := by
    decide +kernel
  rw [accepted] at plies toMove fullMoves
  exact ⟨begun, by decide, plies, toMove, fullMoves (by decide), by decide +kernel⟩

end Game

end Xiangqi
