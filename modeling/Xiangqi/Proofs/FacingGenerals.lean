import Xiangqi.Proofs.Reach
import Xiangqi.Proofs.Zones

/-!
# Generals that face each other

No rule says outright that generals may not face each other. It follows from the one thing that is
enforced, that the side that waits is out of danger: along an open file each general reaches the
other, so the general of the side to move would attack the one that waits. Which side moves does not
matter, since a file is as open one way as the other.
-/

namespace Xiangqi

namespace Board

variable {board : Board} {side : Side} {home waiting : Square}

/-- Squares of different palaces are several rows apart. -/
theorem one_lt_rowsTo_of_inPalace (inPalace : home.inPalace side = true)
    (waits : waiting.inPalace side.opponent = true) : 1 < (home.rowsTo waiting).natAbs := by
  unfold Square.rowsTo Square.rank
  cases side with
  | red =>
    simp only [Square.inPalace, Side.opponent, Bool.and_eq_true,
      decide_eq_true_eq] at inPalace waits
    omega
  | black =>
    simp only [Square.inPalace, Side.opponent, Bool.and_eq_true,
      decide_eq_true_eq] at inPalace waits
    omega

/-- A general attacks the other one along a free file. -/
theorem reaches_of_open_file {general : Piece} (isGeneral : general.kind = .general)
    (inPalace : general.position.inPalace general.side = true)
    (waits : waiting.inPalace general.side.opponent = true)
    (holds : board.holdsGeneral general.side.opponent waiting = true)
    (sameFile : general.position.col = waiting.col)
    (free : ∀ sq, Square.Between general.position waiting sq → board.isOccupied sq = false) :
    board.reaches general waiting = true := by
  have far := one_lt_rowsTo_of_inPalace inPalace waits
  have apart : general.position ≠ waiting := by
    intro same
    simp [same, Square.rowsTo] at far
  have beyond : general.position.distance waiting ≠ 1 := by
    unfold Square.rowsTo at far
    unfold Square.distance
    omega
  exact (reaches_general_iff isGeneral holds).mpr (.inr ⟨beyond, apart, .inl ⟨sameFile, free⟩⟩)

/-- If a side is out of danger and both generals stand in their palaces on one file, then something
stands between them. -/
theorem exists_screen_of_safe (inPlace : board.InPlace) (attacker : board.SoleGeneral side home)
    (waiter : board.SoleGeneral side.opponent waiting) (inPalace : home.inPalace side = true)
    (waits : waiting.inPalace side.opponent = true) (safe : board.inDanger side.opponent = false)
    (sameFile : home.col = waiting.col) :
    ∃ sq, Square.Between home waiting sq ∧ board.isOccupied sq = true := by
  by_contra unscreened
  have free : ∀ sq, Square.Between home waiting sq → board.isOccupied sq = false := by
    intro sq between
    rw [Bool.eq_false_iff]
    exact fun occupied => unscreened ⟨sq, between, occupied⟩
  obtain ⟨general, stands, rfl, isGeneral⟩ :=
    holdsGeneral_eq_true_iff.mp ((attacker home).mpr rfl)
  rw [← inPlace home general stands] at inPalace sameFile free
  have holds := (waiter waiting).mpr rfl
  have reaches := reaches_of_open_file isGeneral inPalace waits holds sameFile free
  have danger : board.inDanger general.side.opponent = true :=
    (waiter.inDanger_iff inPlace).mpr
      ⟨home, general, stands, (Side.opponent_opponent _).symm, reaches⟩
  rw [safe] at danger
  cases danger

end Board

namespace Game

variable {game : Game} {red black : Square}

/-- In a sound game the generals do not face each other, whoever is to move. -/
theorem Sound.exists_screen (sound : game.Sound) (redGeneral : game.board.SoleGeneral .red red)
    (blackGeneral : game.board.SoleGeneral .black black) (redHome : red.inPalace .red = true)
    (blackHome : black.inPalace .black = true) (sameFile : red.col = black.col) :
    ∃ sq, Square.Between red black sq ∧ game.board.isOccupied sq = true := by
  have inPlace := sound.wellFormed.inPlace
  have safe := sound.waitingSafe
  cases toMove : game.toMove with
  | red =>
    rw [toMove] at safe
    exact Board.exists_screen_of_safe inPlace redGeneral blackGeneral redHome blackHome safe
      sameFile
  | black =>
    rw [toMove] at safe
    obtain ⟨sq, between, occupied⟩ := Board.exists_screen_of_safe inPlace blackGeneral redGeneral
      blackHome redHome safe sameFile.symm
    exact ⟨sq, Square.between_comm.mp between, occupied⟩

/-- If each general starts in its own palace, then in every game that a run leads to, going on or
over, both are still there, and if they stand on one file, some piece stands strictly between them.
-/
theorem generals_never_face {start : Game} (begun : start.Begun)
    (home : ∀ side sq, start.board.holdsGeneral side sq = true → sq.inPalace side = true)
    (actions : List Action) :
    let board := (start.run actions).board
    ∃ red black, board.SoleGeneral .red red ∧ board.SoleGeneral .black black ∧
      red.inPalace .red = true ∧ black.inPalace .black = true ∧
      (red.col = black.col → ∃ sq, Square.Between red black sq ∧ board.isOccupied sq = true) := by
  intro board
  have sound : (start.run actions).Sound := begun.sound.run actions
  have zoned : start.board.KindZoned .general := by
    intro sq piece stands isGeneral
    rw [isGeneral]
    exact home piece.side sq (Board.holdsGeneral_eq_true_iff.mpr ⟨piece, stands, rfl, isGeneral⟩)
  have kept : board.KindZoned .general :=
    begun.sound.board_run (Board.KindZoned · .general)
      (fun sound may => sound.kindZoned_carry may) zoned actions
  have stays : ∀ side sq, board.holdsGeneral side sq = true → sq.inPalace side = true := by
    intro side sq holds
    obtain ⟨piece, stands, owned, isGeneral⟩ := Board.holdsGeneral_eq_true_iff.mp holds
    have zone := kept sq piece stands isGeneral
    rw [isGeneral, owned] at zone
    exact zone
  obtain ⟨red, redGeneral⟩ := sound.wellFormed.exists_soleGeneral .red
  obtain ⟨black, blackGeneral⟩ := sound.wellFormed.exists_soleGeneral .black
  have redHome := stays .red red ((redGeneral red).mpr rfl)
  have blackHome := stays .black black ((blackGeneral black).mpr rfl)
  exact ⟨red, black, redGeneral, blackGeneral, redHome, blackHome,
    sound.exists_screen redGeneral blackGeneral redHome blackHome⟩

/-- Red's horse leaves the file of the generals, and Black's advisor, the last piece between them,
may not follow it. -/
theorem generals_never_face_last_screen :
    let actions : List Action := [.move ⟨5, 4⟩ ⟨3, 3⟩, .move ⟨1, 4⟩ ⟨0, 3⟩]
    ∃ start : Game, start.Begun ∧
      (∀ side sq, start.board.holdsGeneral side sq = true → sq.inPalace side = true) ∧
      (start.answers actions).getLast? = some (.failed (.refused (.exposesGeneral .black))) ∧
      let board := (start.run actions).board
      board.SoleGeneral .red ⟨9, 4⟩ ∧ board.SoleGeneral .black ⟨0, 4⟩ ∧
      ∃ sq, Square.Between ⟨9, 4⟩ ⟨0, 4⟩ sq ∧ board.isOccupied sq = true := by
  intro actions
  have outcome : (Game.ofPlacement [⟨.general, .red, 9, 4⟩, ⟨.general, .black, 0, 4⟩,
      ⟨.horse, .red, 5, 4⟩, ⟨.advisor, .black, 1, 4⟩] {}).toOption.map (fun start =>
        (decide (∀ side ∈ Side.all, ∀ sq ∈ Square.all,
          start.board.holdsGeneral side sq = true → sq.inPalace side = true),
        (start.answers actions).getLast?,
        (start.run actions).board.holdsGeneral .red ⟨9, 4⟩,
        (start.run actions).board.holdsGeneral .black ⟨0, 4⟩)) =
      some (true, some (.failed (.refused (.exposesGeneral .black))), true, true) := by
    decide +kernel
  obtain ⟨start, started, seen⟩ := Fallible.exists_ok_of_map_eq_some outcome
  simp only [Prod.mk.injEq, decide_eq_true_eq] at seen
  obtain ⟨home, refused, redHolds, blackHolds⟩ := seen
  have home' : ∀ side sq, start.board.holdsGeneral side sq = true → sq.inPalace side = true :=
    fun side sq => home side (Side.mem_all side) sq (Square.mem_all sq)
  have begun : start.Begun := .ofPlacement started
  obtain ⟨red, black, redGeneral, blackGeneral, -, -, screened⟩ :=
    generals_never_face begun home' actions
  cases (redGeneral _).mp redHolds
  cases (blackGeneral _).mp blackHolds
  exact ⟨start, begun, home', refused, redGeneral, blackGeneral, screened rfl⟩

end Game

end Xiangqi
