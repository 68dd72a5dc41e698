import Xiangqi.Proofs.Board.Built
import Xiangqi.Proofs.Board.Order
import Xiangqi.Proofs.Legality

/-!
# The search for a move and the listing of all moves

`Board.canMove` stops at the first legal move and `Board.legalMoves` lists them all, so the search
could miss a fault that the listing meets later. It cannot: on a board with all pieces in place both
fail exactly for a side that has no general although one of its pieces reaches some square, since a
move that is tried out neither takes nor brings a general of its own side. Such a side is leaderless;
for it no move is found before the fault. For every other side the legality test answers throughout
(`InPlace.decides_iff`), and the search says whether the listing holds a move.
-/

namespace Xiangqi.Board

open Fallible

/-- The side has no general, but one of its pieces reaches some square. -/
def Leaderless (board : Board) (side : Side) : Prop :=
  ¬ board.HasGeneral side ∧ ∃ piece ∈ board.army side, ∃ target, board.reaches piece target = true

variable {board : Board} {piece : Piece} {target : Square} {side : Side}

theorem permits_of_not_reaches (beyond : board.reaches piece target = false) :
    board.permits piece target = .ok false := by
  simp [permits, beyond]

theorem InPlace.inCheck_of_not_hasGeneral (inPlace : board.InPlace)
    (headless : ¬ board.HasGeneral side) : board.inCheck side = .error (.generalMissing side) := by
  have none : board.generalSquare? side = none := by
    rw [inPlace.generalSquare?, List.find?_eq_none]
    intro sq _ holds
    exact headless ⟨sq, holds⟩
  simp only [inCheck, none]

/-- No move brings a general of its own side. -/
theorem not_hasGeneral_carry (headless : ¬ board.HasGeneral side)
    (stands : board.pieceOn piece.position = some piece) :
    ¬ (board.carry piece.position target).HasGeneral side := by
  intro general
  obtain ⟨sq, holds⟩ := general
  rw [holdsGeneral_carry stands] at holds
  by_cases onTarget : sq = target
  · rw [if_pos onTarget] at holds
    exact headless ⟨piece.position, holds⟩
  · by_cases onSource : sq = piece.position
    · rw [if_neg onTarget, if_pos onSource] at holds
      cases holds
    · rw [if_neg onTarget, if_neg onSource] at holds
      exact headless ⟨sq, holds⟩

/-- Without a general of its side, the legality test of a piece fails at the first square that the
piece reaches. -/
theorem InPlace.permits_of_not_hasGeneral (inPlace : board.InPlace)
    (headless : ¬ board.HasGeneral side) (member : piece ∈ board.army side) (target : Square) :
    board.permits piece target =
      if board.reaches piece target then .error (.generalMissing side) else .ok false := by
  obtain ⟨stands, owned⟩ := inPlace.mem_army_iff.mp member
  subst owned
  have failed := (inPlace.carry piece.position target).inCheck_of_not_hasGeneral
    (not_hasGeneral_carry headless stands)
  simp only [permits, safeAfter, transfer_of_pieceOn stands, failed, bind, Except.bind]

/-- The pieces of a side without a general give no fault but its absence, and no move. -/
theorem InPlace.faulty_permits (inPlace : board.InPlace) (headless : ¬ board.HasGeneral side)
    (member : piece ∈ board.army side) (moves : ∃ target, board.reaches piece target = true) :
    Faulty (board.permits piece) (.generalMissing side) Square.all := by
  obtain ⟨target, reaches⟩ := moves
  constructor
  · refine ⟨target, Square.mem_all target, ?_⟩
    rw [inPlace.permits_of_not_hasGeneral headless member, if_pos reaches]
  · intro sq _ fault failed
    rw [inPlace.permits_of_not_hasGeneral headless member] at failed
    split at failed
    · cases failed
      rfl
    · cases failed

theorem InPlace.permits_ne_true (inPlace : board.InPlace) (headless : ¬ board.HasGeneral side)
    (member : piece ∈ board.army side) (target : Square) :
    board.permits piece target ≠ .ok true := by
  rw [inPlace.permits_of_not_hasGeneral headless member]
  split <;> simp

/-- Whatever is asked of each piece of a leaderless side, if it fails for the pieces that reach some
square with the absence of the general and does not fail for the others, then the loop fails so. -/
theorem Leaderless.faulty {α : Type} {step : Piece → Except Corruption α}
    (leaderless : board.Leaderless side)
    (moving : ∀ piece ∈ board.army side, (∃ target, board.reaches piece target = true) →
      step piece = .error (.generalMissing side))
    (idle : ∀ piece ∈ board.army side, (∀ target, board.reaches piece target = false) →
      ∃ value, step piece = .ok value) :
    Faulty step (.generalMissing side) (board.army side) := by
  obtain ⟨-, piece, member, moves⟩ := leaderless
  constructor
  · exact ⟨piece, member, moving piece member moves⟩
  · intro other otherMember fault failed
    by_cases moves : ∃ target, board.reaches other target = true
    · rw [moving other otherMember moves] at failed
      cases failed
      rfl
    · simp only [not_exists, Bool.not_eq_true] at moves
      obtain ⟨value, answered⟩ := idle other otherMember moves
      rw [answered] at failed
      cases failed

/-- The listing of a leaderless side fails. -/
theorem Leaderless.legalMoves_eq (leaderless : board.Leaderless side) (inPlace : board.InPlace) :
    board.legalMoves side = .error (.generalMissing side) := by
  have failed : ((board.army side).mapM fun piece => do
      let squares ← board.targets piece
      return squares.map (Move.mk piece.position)) = .error (.generalMissing side) := by
    apply mapM_eq_error
    apply leaderless.faulty
    · intro piece member moves
      rw [targets, filterM_eq_error (inPlace.faulty_permits leaderless.1 member moves)]
      rfl
    · intro piece member idle
      have none : board.targets piece = .ok (Square.all.filter fun _ => false) :=
        filterM_eq_ok fun sq _ => permits_of_not_reaches (idle sq)
      rw [none]
      exact ⟨_, rfl⟩
  unfold legalMoves
  rw [failed]
  rfl

/-- So does the search for a move: it finds none before it meets the fault. -/
theorem Leaderless.canMove_eq (leaderless : board.Leaderless side) (inPlace : board.InPlace) :
    board.canMove side = .error (.generalMissing side) := by
  have idle : ∀ piece ∈ board.army side, (∀ target, board.reaches piece target = false) →
      Square.all.anyM (board.permits piece) = .ok (Square.all.any fun _ => false) := by
    intro piece _ idle
    exact anyM_eq_ok fun sq _ => permits_of_not_reaches (idle sq)
  have moving : ∀ piece ∈ board.army side, (∃ target, board.reaches piece target = true) →
      Square.all.anyM (board.permits piece) = .error (.generalMissing side) := by
    intro piece member moves
    apply anyM_eq_error (inPlace.faulty_permits leaderless.1 member moves)
    intro sq _
    exact inPlace.permits_ne_true leaderless.1 member sq
  unfold canMove
  apply anyM_eq_error
  · apply leaderless.faulty moving
    intro piece member beyond
    exact ⟨_, idle piece member beyond⟩
  · intro piece member
    by_cases moves : ∃ target, board.reaches piece target = true
    · rw [moving piece member moves]
      simp
    · simp only [not_exists, Bool.not_eq_true] at moves
      rw [idle piece member moves]
      simp

theorem Leaderless.verdict_eq (leaderless : board.Leaderless side) (inPlace : board.InPlace) :
    board.verdict side = .error (.generalMissing side) := by
  simp only [verdict, leaderless.canMove_eq inPlace, bind, Except.bind]

/-- The legality test answers for all pieces of a side exactly if the side is not leaderless. -/
theorem InPlace.decides_iff (inPlace : board.InPlace) :
    board.Decides side ↔ ¬ board.Leaderless side := by
  constructor
  · intro decides leaderless
    have listed := decides.legalMoves_eq
    rw [leaderless.legalMoves_eq inPlace] at listed
    cases listed
  · intro led
    by_cases general : board.HasGeneral side
    · exact inPlace.decides general
    · intro piece member target
      have beyond : board.reaches piece target = false := by
        rw [Bool.eq_false_iff]
        intro reaches
        exact led ⟨general, piece, member, target, reaches⟩
      simp [permits_of_not_reaches beyond, allows, beyond]

/-- The listing is strictly increasing in board order. -/
theorem InPlace.pairwise_listing (inPlace : board.InPlace) (side : Side) :
    (board.listing side).Pairwise Move.Before := by
  apply Move.pairwise_flatMap (inPlace.pairwise_army side)
  intro piece _
  exact Square.pairwise_all.filter (board.allows piece)

theorem InPlace.nodup_listing (inPlace : board.InPlace) (side : Side) :
    (board.listing side).Nodup :=
  (inPlace.pairwise_listing side).imp Move.Before.ne

/-- The search and the listing fail alike, for leaderless sides and with the absence of the general;
for every other side the search finds a move exactly if the listing has one, and the side has lost
exactly if it has none. The listing goes through the squares of the side's pieces in board order and
takes the destinations of each, so it is strictly increasing. -/
theorem searches_agree (built : board.Built) (side : Side) :
    (∀ fault, board.legalMoves side = .error fault ↔ board.canMove side = .error fault) ∧
    (∀ fault, board.legalMoves side = .error fault ↔
      board.Leaderless side ∧ fault = .generalMissing side) ∧
    (¬ board.Leaderless side → ∃ moves, board.legalMoves side = .ok moves ∧
      board.canMove side = .ok (!moves.isEmpty) ∧
      board.verdict side = .ok (if moves.isEmpty then some side.opponent else none)) ∧
    (board.verdict side = .ok (some side.opponent) ↔ board.legalMoves side = .ok []) ∧
    ∀ moves, board.legalMoves side = .ok moves →
      moves.Pairwise Move.Before ∧ moves.Nodup ∧
      ((board.army side).map Piece.position).Pairwise Square.Before ∧
      ∃ squares : Piece → List Square,
        (∀ piece ∈ board.army side, board.destinations piece.position = .ok (squares piece)) ∧
        moves = (board.army side).flatMap fun piece =>
          (squares piece).map (Move.mk piece.position) := by
  have inPlace := built.inPlace
  by_cases leaderless : board.Leaderless side
  · have listed := leaderless.legalMoves_eq inPlace
    have searched := leaderless.canMove_eq inPlace
    have judged := leaderless.verdict_eq inPlace
    refine ⟨?_, ?_, ?_, ?_, ?_⟩
    · intro fault
      rw [listed, searched]
      simp
    · intro fault
      rw [listed, and_iff_right leaderless, Except.error.injEq, eq_comm]
    · intro led
      exact absurd leaderless led
    · rw [judged, listed]
      simp
    · intro moves asListed
      rw [listed] at asListed
      cases asListed
  · have decides := inPlace.decides_iff.mpr leaderless
    have listed := decides.legalMoves_eq
    have searched := decides.canMove_eq
    have judged := decides.verdict_eq
    have empty := board.isEmpty_listing side
    refine ⟨?_, ?_, ?_, ?_, ?_⟩
    · intro fault
      rw [listed, searched]
      simp
    · intro fault
      rw [listed]
      simp [leaderless]
    · intro _
      refine ⟨_, listed, ?_, ?_⟩
      · rw [empty, Bool.not_not, searched]
      · rw [empty, judged]
        cases board.movable side <;> rfl
    · rw [judged, listed, Except.ok.injEq, Except.ok.injEq, ← List.isEmpty_iff, empty]
      cases board.movable side <;> simp
    · intro moves asListed
      rw [listed] at asListed
      cases asListed
      refine ⟨inPlace.pairwise_listing side, inPlace.nodup_listing side,
        inPlace.pairwise_army side, fun piece => Square.all.filter (board.allows piece), ?_, rfl⟩
      intro piece member
      rw [inPlace.destinations_position member, decides.targets_eq member]

/-- Black's cannon has been carried onto Red's general: Red is leaderless, so both fail for Red. Black
has its general and some legal move, and the search finds one. -/
theorem searches_agree_leaderless :
    let board := (Board.opening {}).carry ⟨2, 1⟩ ⟨9, 4⟩
    board.Built ∧ board.Leaderless .red ∧ ¬ board.Leaderless .black ∧
    board.legalMoves .red = .error (.generalMissing .red) ∧
    board.canMove .red = .error (.generalMissing .red) ∧
    ∃ moves, board.legalMoves .black = .ok moves ∧ moves.Pairwise Move.Before ∧
      board.canMove .black = .ok (!moves.isEmpty) ∧ moves.isEmpty = false := by
  intro board
  have cannon : (Board.opening {}).pieceOn ⟨2, 1⟩ = some ⟨.cannon, .black, ⟨2, 1⟩⟩ := by
    decide +kernel
  have built : board.Built := .transfer (.opening {}) (transfer_of_pieceOn cannon)
  have headless : ∀ sq ∈ Square.all, board.holdsGeneral .red sq = false := by
    decide +kernel
  have leaderless : board.Leaderless .red := by
    constructor
    · intro general
      obtain ⟨sq, holds⟩ := general
      rw [headless sq (Square.mem_all sq)] at holds
      cases holds
    · refine ⟨⟨.pawn, .red, ⟨6, 0⟩⟩, ?_, ⟨5, 0⟩, ?_⟩ <;> decide +kernel
  have led : ¬ board.Leaderless .black := by
    intro without
    exact without.1 ⟨⟨0, 4⟩, by decide +kernel⟩
  have able : (board.canMove .black).toOption = some true := by
    decide +kernel
  obtain ⟨alike, fails, -⟩ := searches_agree built .red
  obtain ⟨-, -, answers, -, ordered⟩ := searches_agree built .black
  have listed := (fails _).mpr ⟨leaderless, rfl⟩
  obtain ⟨moves, listedBlack, searched, -⟩ := answers led
  refine ⟨built, leaderless, led, listed, (alike _).mp listed, moves, listedBlack,
    (ordered moves listedBlack).1, searched, ?_⟩
  rw [eq_ok_of_toOption_eq_some able] at searched
  have found : true = !moves.isEmpty := Except.ok.inj searched
  exact (Bool.not_eq_true' _).mp found.symm

end Xiangqi.Board
