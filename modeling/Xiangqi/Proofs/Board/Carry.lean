import Xiangqi.Proofs.Board.Generals

/-!
# What a transfer leaves behind

`Board.carry` is the board that a transfer from an occupied square leads to. Carrying a piece keeps
all pieces in place and the rules as they are. A sole general stays the only one of its side: it
stands on the target if it was carried itself, and where it stood otherwise, unless it is the piece
that the move takes off the board.
-/

namespace Xiangqi.Board

/-- The board after whatever stands on `source` has been carried to `target`. -/
def carry (board : Board) (source target : Square) : Board :=
  match board.pieceOn source with
  | none => board
  | some piece => (board.put source none).put target (some { piece with position := target })

variable {board : Board} {source target : Square} {piece : Piece}

/-- From an occupied square a transfer succeeds, and gives what stood on the target. -/
theorem transfer_of_pieceOn (stands : board.pieceOn source = some piece) :
    board.transfer source target =
      .ok (if target = source then none else board.pieceOn target, board.carry source target) := by
  simp only [transfer, carry, stands, pieceOn_put]

theorem pieceOn_carry (stands : board.pieceOn source = some piece) (sq : Square) :
    (board.carry source target).pieceOn sq =
      if sq = target then some { piece with position := target }
      else if sq = source then none
      else board.pieceOn sq := by
  simp only [carry, stands, pieceOn_put]

@[simp] theorem rules_carry (board : Board) (source target : Square) :
    (board.carry source target).rules = board.rules := by
  unfold carry
  cases board.pieceOn source <;> rfl

/-- The carried piece learns its new square, and no other piece moves. -/
theorem InPlace.carry (inPlace : board.InPlace) (source target : Square) :
    (board.carry source target).InPlace := by
  intro sq other stands
  cases moving : board.pieceOn source with
  | none =>
    simp only [Board.carry, moving] at stands
    exact inPlace sq other stands
  | some piece =>
    rw [pieceOn_carry moving] at stands
    by_cases onTarget : sq = target
    · rw [if_pos onTarget] at stands
      cases stands
      exact onTarget.symm
    · rw [if_neg onTarget] at stands
      by_cases onSource : sq = source
      · simp [onSource] at stands
      · rw [if_neg onSource] at stands
        exact inPlace sq other stands

/-- Whose general stands where after a piece has been carried. -/
theorem holdsGeneral_carry (stands : board.pieceOn source = some piece) (side : Side)
    (sq : Square) :
    (board.carry source target).holdsGeneral side sq =
      if sq = target then board.holdsGeneral side source
      else if sq = source then false
      else board.holdsGeneral side sq := by
  simp only [holdsGeneral, pieceOn_carry stands, stands]
  split
  · rfl
  · split <;> rfl

/-- A sole general that is not taken stays the only general of its side. -/
theorem SoleGeneral.carry {side : Side} {home : Square} (sole : board.SoleGeneral side home)
    (stands : board.pieceOn source = some piece) (spared : home ≠ target) :
    (board.carry source target).SoleGeneral side (if source = home then target else home) := by
  intro sq
  rw [holdsGeneral_carry stands]
  by_cases onTarget : sq = target
  · rw [if_pos onTarget, onTarget, sole source]
    by_cases moves : source = home
    · simp [moves]
    · simp [moves, Ne.symm spared]
  · rw [if_neg onTarget]
    by_cases onSource : sq = source
    · rw [if_pos onSource, onSource]
      by_cases moves : source = home
      · rw [if_pos moves]
        simp [← onSource, onTarget]
      · simp [moves]
    · rw [if_neg onSource, sole sq]
      by_cases moves : source = home
      · rw [if_pos moves, ← moves]
        simp [onTarget, onSource]
      · rw [if_neg moves]

/-- A board stays well-formed when a piece is carried to a square on which no general stands. -/
theorem WellFormed.carry (wellFormed : board.WellFormed)
    (stands : board.pieceOn source = some piece)
    (spared : ∀ side, board.holdsGeneral side target = false) :
    (board.carry source target).WellFormed := by
  refine ⟨wellFormed.inPlace.carry source target, fun side => ?_⟩
  obtain ⟨home, sole⟩ := wellFormed.exists_soleGeneral side
  have apart : home ≠ target := by
    intro same
    have holds := (sole target).mpr same.symm
    rw [spared side] at holds
    cases holds
  exact generalCount_eq_one_iff.mpr ⟨_, sole.carry stands apart⟩

end Xiangqi.Board
