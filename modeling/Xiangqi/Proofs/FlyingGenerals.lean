import Xiangqi.Proofs.Board.Built
import Xiangqi.Proofs.Legality
import Xiangqi.Proofs.Reach

/-!
# Flying generals on any placement

A placement may put the generals anywhere, also next to each other or on one rank. The rule that
they attack each other along an open file, and only there, is `Board.FlyingGenerals`. It holds of a
placement exactly if the generals neither stand next to each other on a file, where each of them
only has its step into the palace, nor face each other along an open rank, which counts like an open
file.
-/

namespace Xiangqi

namespace Square

variable {a b : Square}

theorem distance_comm (a b : Square) : a.distance b = b.distance a := by
  unfold distance
  omega

/-- Neighbours do not stand each in the palace of the other's side. -/
theorem not_inPalace_of_distance_eq_one {side : Side} (near : a.distance b = 1)
    (inPalace : b.inPalace side = true) : a.inPalace side.opponent = false := by
  rw [Bool.eq_false_iff]
  intro other
  unfold distance rank file at near
  cases side with
  | red =>
    simp only [Square.inPalace, Side.opponent, Bool.and_eq_true,
      decide_eq_true_eq] at inPalace other
    omega
  | black =>
    simp only [Square.inPalace, Side.opponent, Bool.and_eq_true,
      decide_eq_true_eq] at inPalace other
    omega

end Square

namespace Board

open Square

/-- The rule of flying generals for a board whose generals stand on the given squares. -/
structure FlyingGenerals (board : Board) (homes : Side → Square) : Prop where
  /-- On an open file each general reaches the other, and both sides are in check. -/
  facing : board.OpenFile (homes .red) (homes .black) → ∀ side,
    board.reaches ⟨.general, side, homes side⟩ (homes side.opponent) = true ∧
      board.inCheck side = .ok true
  /-- Only so, or by a step into its own palace, does a general reach the other. -/
  reaching : ∀ side, board.reaches ⟨.general, side, homes side⟩ (homes side.opponent) = true →
    board.OpenFile (homes side) (homes side.opponent) ∨
      ((homes side).distance (homes side.opponent) = 1 ∧
        (homes side.opponent).inPalace side = true)
  /-- On one rank, more than a step apart, neither reaches the other. -/
  apart : (homes .red).row = (homes .black).row → 1 < (homes .red).distance (homes .black) →
    ∀ side, board.reaches ⟨.general, side, homes side⟩ (homes side.opponent) = false

variable {board : Board} {homes : Side → Square}

/-- From whichever side one looks, the file is open or not. -/
theorem openFile_homes_iff (side : Side) :
    board.OpenFile (homes side) (homes side.opponent) ↔
      board.OpenFile (homes .red) (homes .black) := by
  cases side with
  | red => exact Iff.rfl
  | black => exact openFile_comm

theorem openRank_homes_iff (side : Side) :
    board.OpenRank (homes side) (homes side.opponent) ↔
      board.OpenRank (homes .red) (homes .black) := by
  cases side with
  | red => exact Iff.rfl
  | black => exact openRank_comm

theorem distance_homes (homes : Side → Square) (side : Side) :
    (homes side).distance (homes side.opponent) = (homes .red).distance (homes .black) := by
  cases side with
  | red => rfl
  | black => exact distance_comm _ _

section SoleGenerals

variable (wellFormed : board.WellFormed) (sole : ∀ side, board.SoleGeneral side (homes side))

include wellFormed sole

theorem pieceOn_home (side : Side) :
    board.pieceOn (homes side) = some ⟨.general, side, homes side⟩ := by
  obtain ⟨⟨kind, owner, position⟩, stands, owned, isGeneral⟩ :=
    holdsGeneral_eq_true_iff.mp ((sole side (homes side)).mpr rfl)
  have placed : position = homes side := wellFormed.inPlace _ _ stands
  rw [stands, placed, show kind = .general from isGeneral, show owner = side from owned]

theorem homes_ne (side : Side) : homes side ≠ homes side.opponent := by
  intro same
  have own := pieceOn_home wellFormed sole side
  rw [same, pieceOn_home wellFormed sole side.opponent] at own
  simp only [Option.some.injEq, Piece.mk.injEq, true_and] at own
  exact Side.opponent_ne side own.1

theorem home_reaches_iff (side : Side) :
    board.reaches ⟨.general, side, homes side⟩ (homes side.opponent) = true ↔
      ((homes side).distance (homes side.opponent) = 1 ∧
        (homes side.opponent).inPalace side = true) ∨
      ((homes side).distance (homes side.opponent) ≠ 1 ∧
        (board.OpenFile (homes side) (homes side.opponent) ∨
          board.OpenRank (homes side) (homes side.opponent))) := by
  have holds := (sole side.opponent (homes side.opponent)).mpr rfl
  rw [reaches_general_iff rfl holds, and_iff_right (homes_ne wellFormed sole side)]

/-- A side is in check if the other general reaches its own. -/
theorem inCheck_of_home_reaches {side : Side}
    (reaches : board.reaches ⟨.general, side.opponent, homes side.opponent⟩ (homes side) = true) :
    board.inCheck side = .ok true := by
  have danger : board.inDanger side = true :=
    ((sole side).inDanger_iff wellFormed.inPlace).mpr
      ⟨homes side.opponent, _, pieceOn_home wellFormed sole side.opponent, rfl, reaches⟩
  rw [wellFormed.inPlace.inCheck_eq (wellFormed.hasGeneral side), danger]

theorem FlyingGenerals.not_next (rule : board.FlyingGenerals homes)
    (sameFile : (homes .red).col = (homes .black).col) :
    (homes .red).distance (homes .black) ≠ 1 := by
  intro near
  have line : board.OpenFile (homes .red) (homes .black) :=
    ⟨sameFile, fun sq between => absurd between (not_between_of_distance_eq_one near)⟩
  -- Each general would have to step into its own palace to take the other one there.
  have palace : ∀ side, (homes side.opponent).inPalace side = true := by
    intro side
    have near' := (distance_homes homes side).trans near
    rcases (home_reaches_iff wellFormed sole side).mp (rule.facing line side).1 with step | ⟨far, -⟩
    · exact step.2
    · exact absurd near' far
  have elsewhere := not_inPalace_of_distance_eq_one near (palace .red)
  rw [Side.opponent, show (homes .red).inPalace .black = true from palace .black] at elsewhere
  cases elsewhere

theorem FlyingGenerals.not_openRank (rule : board.FlyingGenerals homes)
    (far : 1 < (homes .red).distance (homes .black)) :
    ¬ board.OpenRank (homes .red) (homes .black) := by
  intro line
  have reaches : board.reaches ⟨.general, .red, homes .red⟩ (homes Side.red.opponent) = true :=
    (home_reaches_iff wellFormed sole .red).mpr (.inr ⟨Nat.ne_of_gt far, .inr line⟩)
  rw [rule.apart line.1 far .red] at reaches
  cases reaches

theorem one_lt_distance_homes {side : Side}
    (far : (homes side).distance (homes side.opponent) ≠ 1) :
    1 < (homes .red).distance (homes .black) := by
  have positive := (distance_pos_iff _ _).mpr (homes_ne wellFormed sole side)
  rw [distance_homes] at far positive
  omega

theorem home_reaches_of_openFile (far : (homes .red).distance (homes .black) ≠ 1)
    (line : board.OpenFile (homes .red) (homes .black)) (side : Side) :
    board.reaches ⟨.general, side, homes side⟩ (homes side.opponent) = true := by
  apply (home_reaches_iff wellFormed sole side).mpr
  refine .inr ⟨?_, .inl ((openFile_homes_iff side).mpr line)⟩
  rw [distance_homes]
  exact far

theorem flyingGenerals_of_apart
    (notNext : ¬ ((homes .red).col = (homes .black).col ∧
      (homes .red).distance (homes .black) = 1))
    (notFacing : ¬ (board.OpenRank (homes .red) (homes .black) ∧
      1 < (homes .red).distance (homes .black))) : board.FlyingGenerals homes where
  facing := by
    intro line side
    have far : (homes .red).distance (homes .black) ≠ 1 := fun near => notNext ⟨line.1, near⟩
    have reaches := home_reaches_of_openFile wellFormed sole far line
    refine ⟨reaches side, inCheck_of_home_reaches wellFormed sole ?_⟩
    have back := reaches side.opponent
    rw [Side.opponent_opponent] at back
    exact back
  reaching := by
    intro side reaches
    rcases (home_reaches_iff wellFormed sole side).mp reaches with step | ⟨far, line | line⟩
    · exact .inr step
    · exact .inl line
    · have facing := (openRank_homes_iff side).mp line
      exact absurd ⟨facing, one_lt_distance_homes wellFormed sole far⟩ notFacing
  apart := by
    intro sameRank more side
    rw [Bool.eq_false_iff]
    intro reaches
    rcases (home_reaches_iff wellFormed sole side).mp reaches with ⟨near, -⟩ | ⟨far, line | line⟩
    · rw [distance_homes] at near
      omega
    · have sameFile := ((openFile_homes_iff side).mp line).1
      exact homes_ne wellFormed sole .red (Square.ext sameRank sameFile)
    · exact notFacing ⟨(openRank_homes_iff side).mp line, more⟩

/-- Two ways of standing break the rule: next to each other on a file, and farther apart on an open
rank. -/
theorem flyingGenerals_iff_of_sole :
    board.FlyingGenerals homes ↔
      ¬ ((homes .red).col = (homes .black).col ∧ (homes .red).distance (homes .black) = 1) ∧
        ¬ (board.OpenRank (homes .red) (homes .black) ∧
          1 < (homes .red).distance (homes .black)) := by
  constructor
  · intro rule
    refine ⟨?_, ?_⟩
    · rintro ⟨sameFile, near⟩
      exact rule.not_next wellFormed sole sameFile near
    · rintro ⟨line, far⟩
      exact rule.not_openRank wellFormed sole far line
  · rintro ⟨notNext, notFacing⟩
    exact flyingGenerals_of_apart wellFormed sole notNext notFacing

end SoleGenerals

/-- The homes of the generals are the squares on which generals are seen. -/
theorem WellFormed.exists_homes (wellFormed : board.WellFormed) {red black : Square}
    (redHolds : board.holdsGeneral .red red = true)
    (blackHolds : board.holdsGeneral .black black = true) :
    ∃ homes : Side → Square, (∀ side, board.SoleGeneral side (homes side)) ∧
      homes .red = red ∧ homes .black = black := by
  choose homes sole using wellFormed.exists_soleGeneral
  exact ⟨homes, sole, ((sole .red red).mp redHolds).symm, ((sole .black black).mp blackHolds).symm⟩

/-- On every board that a placement gives, a general reaches the other one by a step into its own
palace, or from farther away along an open file or an open rank. So the rule of flying generals
holds of the board exactly if the generals do not stand next to each other on a file and do not face
each other along a rank. -/
theorem flyingGenerals_iff {placement : Placement} {rules : Rules} {board : Board}
    (placed : Board.ofPlacement placement rules = .ok board) :
    ∃ homes : Side → Square, (∀ side, board.SoleGeneral side (homes side)) ∧
      (∀ side, board.pieceOn (homes side) = some ⟨.general, side, homes side⟩) ∧
      (∀ side, board.reaches ⟨.general, side, homes side⟩ (homes side.opponent) = true ↔
        ((homes side).distance (homes side.opponent) = 1 ∧
          (homes side.opponent).inPalace side = true) ∨
        ((homes side).distance (homes side.opponent) ≠ 1 ∧
          (board.OpenFile (homes side) (homes side.opponent) ∨
            board.OpenRank (homes side) (homes side.opponent)))) ∧
      (board.FlyingGenerals homes ↔
        ¬ ((homes .red).col = (homes .black).col ∧ (homes .red).distance (homes .black) = 1) ∧
          ¬ (board.OpenRank (homes .red) (homes .black) ∧
            1 < (homes .red).distance (homes .black))) := by
  have wellFormed := wellFormed_of_ofPlacement placed
  choose homes sole using wellFormed.exists_soleGeneral
  exact ⟨homes, sole, pieceOn_home wellFormed sole, home_reaches_iff wellFormed sole,
    flyingGenerals_iff_of_sole wellFormed sole⟩

/-- Three rows apart on the edge of the board, outside both palaces, the generals attack each other.
-/
theorem flyingGenerals_iff_on_edge :
    ∃ board homes, Board.ofPlacement [⟨.general, .red, 6, 0⟩, ⟨.general, .black, 3, 0⟩] {} =
        .ok board ∧
      homes .red = ⟨6, 0⟩ ∧ homes .black = ⟨3, 0⟩ ∧ board.FlyingGenerals homes := by
  have outcome : (Board.ofPlacement [⟨.general, .red, 6, 0⟩, ⟨.general, .black, 3, 0⟩]
      {}).toOption.map (fun board =>
        (board.holdsGeneral .red ⟨6, 0⟩, board.holdsGeneral .black ⟨3, 0⟩)) =
      some (true, true) := by
    decide +kernel
  obtain ⟨board, placed, seen⟩ := Fallible.exists_ok_of_map_eq_some outcome
  rw [Prod.mk.injEq] at seen
  obtain ⟨homes, sole, -, -, rule_iff⟩ := flyingGenerals_iff placed
  have red := (sole .red _).mp seen.1
  have black := (sole .black _).mp seen.2
  refine ⟨board, homes, placed, red.symm, black.symm, rule_iff.mpr ⟨?_, ?_⟩⟩
  · rw [← red, ← black]
    decide
  · rintro ⟨⟨sameRank, -⟩, -⟩
    rw [← red, ← black] at sameRank
    cases sameRank

/-- Next to each other in the middle of a file neither general attacks the other, and along an open
rank each attacks the other: both placements are accepted, and both break the rule. -/
theorem not_flyingGenerals_next_or_along_rank :
    (∃ board homes, Board.ofPlacement [⟨.general, .red, 5, 4⟩, ⟨.general, .black, 4, 4⟩] {} =
        .ok board ∧
      (∀ side, board.SoleGeneral side (homes side)) ∧ ¬ board.FlyingGenerals homes) ∧
    ∃ board homes, Board.ofPlacement [⟨.general, .red, 5, 0⟩, ⟨.general, .black, 5, 5⟩] {} =
        .ok board ∧
      (∀ side, board.SoleGeneral side (homes side)) ∧ ¬ board.FlyingGenerals homes := by
  constructor
  · have outcome : (Board.ofPlacement [⟨.general, .red, 5, 4⟩, ⟨.general, .black, 4, 4⟩]
        {}).toOption.map (fun board =>
          (board.holdsGeneral .red ⟨5, 4⟩, board.holdsGeneral .black ⟨4, 4⟩)) =
        some (true, true) := by
      decide +kernel
    obtain ⟨board, placed, seen⟩ := Fallible.exists_ok_of_map_eq_some outcome
    rw [Prod.mk.injEq] at seen
    have wellFormed := wellFormed_of_ofPlacement placed
    obtain ⟨homes, sole, red, black⟩ := wellFormed.exists_homes seen.1 seen.2
    refine ⟨board, homes, placed, sole, fun rule => rule.not_next wellFormed sole ?_ ?_⟩
    · rw [red, black]
    · rw [red, black]
      decide
  · have outcome : (Board.ofPlacement [⟨.general, .red, 5, 0⟩, ⟨.general, .black, 5, 5⟩]
        {}).toOption.map (fun board =>
          (board.holdsGeneral .red ⟨5, 0⟩, board.holdsGeneral .black ⟨5, 5⟩,
            board.reaches ⟨.general, .red, ⟨5, 0⟩⟩ ⟨5, 5⟩)) =
        some (true, true, true) := by
      decide +kernel
    obtain ⟨board, placed, seen⟩ := Fallible.exists_ok_of_map_eq_some outcome
    rw [Prod.mk.injEq, Prod.mk.injEq] at seen
    have wellFormed := wellFormed_of_ofPlacement placed
    obtain ⟨homes, sole, red, black⟩ := wellFormed.exists_homes seen.1 seen.2.1
    refine ⟨board, homes, placed, sole, fun rule => ?_⟩
    have denied := rule.apart (by rw [red, black]) (by rw [red, black]; decide) .red
    rw [Side.opponent, red, black, seen.2.2] at denied
    cases denied

end Board

end Xiangqi
