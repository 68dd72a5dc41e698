import Xiangqi.Legal
import Xiangqi.Proofs.Board.Carry
import Xiangqi.Proofs.Fallible

/-!
# Legality without failure

The legality functions can fail, since a board might lack a general or hold a piece that does not
know its square. On a board with all pieces in place they fail for a side only if it has no general:
a move that is tried out never takes a general of its own side. There the one test `Board.allows`
decides everything, and each search is the plain list function over that test.
-/

namespace Xiangqi.Board

open Fallible

/-- Some opposing piece reaches the side's general. -/
def inDanger (board : Board) (side : Side) : Bool :=
  (board.generalSquare? side).any fun home =>
    (board.army side.opponent).any fun enemy => board.reaches enemy home

/-- The piece reaches the square, and its own general is out of danger afterwards. -/
def allows (board : Board) (piece : Piece) (target : Square) : Bool :=
  board.reaches piece target && !(board.carry piece.position target).inDanger piece.side

/-- Some piece of the side may move. -/
def movable (board : Board) (side : Side) : Bool :=
  (board.army side).any fun piece => Square.all.any (board.allows piece)

/-- Each piece of the side with each square it may move to, in board order. -/
def listing (board : Board) (side : Side) : List Move :=
  (board.army side).flatMap fun piece =>
    (Square.all.filter (board.allows piece)).map (Move.mk piece.position)

def HasGeneral (board : Board) (side : Side) : Prop :=
  ∃ sq, board.holdsGeneral side sq = true

variable {board : Board} {piece other : Piece} {target : Square} {side : Side}

theorem WellFormed.hasGeneral (wellFormed : board.WellFormed) (side : Side) :
    board.HasGeneral side := by
  obtain ⟨home, sole⟩ := wellFormed.exists_soleGeneral side
  exact ⟨home, (sole home).mpr rfl⟩

theorem InPlace.exists_generalSquare? (inPlace : board.InPlace) (general : board.HasGeneral side) :
    ∃ home, board.generalSquare? side = some home := by
  obtain ⟨sq, holds⟩ := general
  rw [inPlace.generalSquare?, ← Option.isSome_iff_exists, List.find?_isSome]
  exact ⟨sq, Square.mem_all sq, holds⟩

theorem InPlace.inCheck_eq (inPlace : board.InPlace) (general : board.HasGeneral side) :
    board.inCheck side = .ok (board.inDanger side) := by
  obtain ⟨home, found⟩ := inPlace.exists_generalSquare? general
  simp only [inCheck, inDanger, found, Option.any_some]

theorem position_ne_of_reaches (reaches : board.reaches piece target = true) :
    piece.position ≠ target := by
  simp only [Board.reaches, Bool.and_eq_true, bne_iff_ne] at reaches
  exact reaches.1.1

theorem side_ne_of_reaches (reaches : board.reaches piece target = true)
    (stands : board.pieceOn target = some other) : other.side ≠ piece.side := by
  simp only [Board.reaches, Bool.and_eq_true, stands, Option.any_some, Bool.not_eq_true',
    beq_eq_false_iff_ne] at reaches
  exact reaches.1.2

/-- A piece never reaches a general of its own side. -/
theorem holdsGeneral_eq_false_of_reaches (reaches : board.reaches piece target = true) :
    board.holdsGeneral piece.side target = false := by
  rw [Bool.eq_false_iff]
  intro holds
  obtain ⟨other, stands, owned, -⟩ := holdsGeneral_eq_true_iff.mp holds
  exact side_ne_of_reaches reaches stands owned

/-- Trying a move out leaves its side with a general. -/
theorem HasGeneral.carry (general : board.HasGeneral piece.side)
    (stands : board.pieceOn piece.position = some piece)
    (reaches : board.reaches piece target = true) :
    (board.carry piece.position target).HasGeneral piece.side := by
  obtain ⟨sq, holds⟩ := general
  by_cases moves : sq = piece.position
  · refine ⟨target, ?_⟩
    rw [holdsGeneral_carry stands, if_pos rfl, ← moves]
    exact holds
  · have apart : sq ≠ target := by
      intro same
      rw [same, holdsGeneral_eq_false_of_reaches reaches] at holds
      cases holds
    refine ⟨sq, ?_⟩
    rw [holdsGeneral_carry stands, if_neg apart, if_neg moves]
    exact holds

theorem InPlace.safeAfter_eq (inPlace : board.InPlace) (general : board.HasGeneral piece.side)
    (stands : board.pieceOn piece.position = some piece)
    (reaches : board.reaches piece target = true) :
    board.safeAfter piece target =
      .ok (!(board.carry piece.position target).inDanger piece.side) := by
  have scan := (inPlace.carry piece.position target).inCheck_eq (general.carry stands reaches)
  simp only [safeAfter, transfer_of_pieceOn stands, scan, bind, Except.bind, pure, Except.pure]

/-- For a piece of a side with a general, the legality test answers, and says what `allows` says. -/
theorem InPlace.permits_eq (inPlace : board.InPlace) (general : board.HasGeneral piece.side)
    (stands : board.pieceOn piece.position = some piece) (target : Square) :
    board.permits piece target = .ok (board.allows piece target) := by
  unfold permits allows
  cases reaches : board.reaches piece target with
  | true =>
    rw [if_pos rfl, inPlace.safeAfter_eq general stands reaches, Bool.true_and]
  | false => rfl

/-- The legality test answers for the pieces of the side. -/
def Decides (board : Board) (side : Side) : Prop :=
  ∀ piece ∈ board.army side, ∀ target, board.permits piece target = .ok (board.allows piece target)

theorem InPlace.decides (inPlace : board.InPlace) (general : board.HasGeneral side) :
    board.Decides side := by
  intro piece member target
  obtain ⟨stands, owned⟩ := inPlace.mem_army_iff.mp member
  exact inPlace.permits_eq (owned ▸ general) stands target

theorem Decides.targets_eq (decides : board.Decides side) (member : piece ∈ board.army side) :
    board.targets piece = .ok (Square.all.filter (board.allows piece)) :=
  filterM_eq_ok fun sq _ => decides piece member sq

theorem InPlace.destinations_position (inPlace : board.InPlace)
    (member : piece ∈ board.army side) : board.destinations piece.position = board.targets piece := by
  obtain ⟨stands, -⟩ := inPlace.mem_army_iff.mp member
  simp only [destinations, stands]

theorem Decides.legalMoves_eq (decides : board.Decides side) :
    board.legalMoves side = .ok (board.listing side) := by
  have perPiece : ((board.army side).mapM fun piece => do
      let squares ← board.targets piece
      return squares.map (Move.mk piece.position)) = .ok ((board.army side).map fun piece =>
        (Square.all.filter (board.allows piece)).map (Move.mk piece.position)) := by
    apply mapM_eq_ok
    intro piece member
    rw [decides.targets_eq member]
    rfl
  rw [legalMoves, perPiece, listing, List.flatMap_def]
  rfl

theorem Decides.canMove_eq (decides : board.Decides side) :
    board.canMove side = .ok (board.movable side) := by
  apply anyM_eq_ok
  intro piece member
  exact anyM_eq_ok fun sq _ => decides piece member sq

theorem Decides.verdict_eq (decides : board.Decides side) :
    board.verdict side = .ok (if board.movable side then none else some side.opponent) := by
  simp only [verdict, decides.canMove_eq, bind, Except.bind, pure, Except.pure]

theorem InPlace.destinations_eq (inPlace : board.InPlace) {source : Square}
    (general : board.HasGeneral piece.side) (stands : board.pieceOn source = some piece) :
    board.destinations source = .ok (Square.all.filter (board.allows piece)) := by
  simp only [destinations, stands]
  exact (inPlace.decides general).targets_eq (mem_army.mpr ⟨⟨source, stands⟩, rfl⟩)

theorem InPlace.legalMoves_eq (inPlace : board.InPlace) (general : board.HasGeneral side) :
    board.legalMoves side = .ok (board.listing side) :=
  (inPlace.decides general).legalMoves_eq

theorem InPlace.canMove_eq (inPlace : board.InPlace) (general : board.HasGeneral side) :
    board.canMove side = .ok (board.movable side) :=
  (inPlace.decides general).canMove_eq

theorem InPlace.verdict_eq (inPlace : board.InPlace) (general : board.HasGeneral side) :
    board.verdict side = .ok (if board.movable side then none else some side.opponent) :=
  (inPlace.decides general).verdict_eq

/-- The listing is empty exactly if no piece may move. -/
theorem isEmpty_listing (board : Board) (side : Side) :
    (board.listing side).isEmpty = !board.movable side := by
  rw [Bool.eq_iff_iff, Bool.not_eq_true', Bool.eq_false_iff, List.isEmpty_iff, listing,
    List.flatMap_eq_nil_iff]
  simp [movable]

/-- Some piece of the side may move exactly when a piece stands somewhere that may. -/
theorem InPlace.movable_iff (inPlace : board.InPlace) :
    board.movable side = true ↔ ∃ source piece target, board.pieceOn source = some piece ∧
      piece.side = side ∧ board.allows piece target = true := by
  simp only [movable, List.any_eq_true]
  constructor
  · rintro ⟨piece, member, target, -, allowed⟩
    obtain ⟨stands, owned⟩ := inPlace.mem_army_iff.mp member
    exact ⟨piece.position, piece, target, stands, owned, allowed⟩
  · rintro ⟨source, piece, target, stands, owned, allowed⟩
    exact ⟨piece, mem_army.mpr ⟨⟨source, stands⟩, owned⟩, target, Square.mem_all target, allowed⟩

/-- A side is in danger exactly when some opposing piece on the board reaches its sole general. -/
theorem SoleGeneral.inDanger_iff {home : Square} (sole : board.SoleGeneral side home)
    (inPlace : board.InPlace) :
    board.inDanger side = true ↔ ∃ source enemy, board.pieceOn source = some enemy ∧
      enemy.side = side.opponent ∧ board.reaches enemy home = true := by
  simp only [inDanger, sole.generalSquare? inPlace, Option.any_some, List.any_eq_true]
  constructor
  · rintro ⟨enemy, member, reaches⟩
    obtain ⟨stands, owned⟩ := inPlace.mem_army_iff.mp member
    exact ⟨enemy.position, enemy, stands, owned, reaches⟩
  · rintro ⟨source, enemy, stands, owned, reaches⟩
    exact ⟨enemy, mem_army.mpr ⟨⟨source, stands⟩, owned⟩, reaches⟩

end Xiangqi.Board
