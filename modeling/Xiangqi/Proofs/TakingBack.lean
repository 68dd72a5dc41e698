import Mathlib.Logic.Relation
import Xiangqi.Proofs.Board.Built
import Xiangqi.Proofs.Notation.Characters
import Xiangqi.Proofs.Reach

/-!
# Moves that can be taken back

A move to a free square changes nothing but the two squares that it joins. Lines, eyes and jumps are
the same seen from either end, so a piece whose rule does not look at the direction can go back the
way it came, if its old square is one that its rule lets it enter. Pawns are the exception: no move
takes them back a row, so a step forward is for good, on whatever boards the pawn goes on.
-/

namespace Xiangqi

namespace Square

theorem rowsTo_swap (source target : Square) : target.rowsTo source = -source.rowsTo target := by
  unfold rowsTo
  omega

theorem colsTo_swap (source target : Square) : target.colsTo source = -source.colsTo target := by
  unfold colsTo
  omega

end Square

namespace Notation

variable {board : Board} {side : Side} {here next : Square}

theorem gain_add (side : Side) (here next last : Square) :
    gain side here next + gain side next last = gain side here last := by
  unfold gain
  rw [← Int.add_mul]
  congr 1
  omega

/-- A step forward gains one row. -/
theorem gain_of_shift? (forward : here.shift? side.heading 0 = some next) :
    gain side here next = 1 := by
  obtain ⟨rows, -⟩ := Square.shift?_eq_some_iff.mp forward
  unfold gain
  rw [rows]
  cases side <;> simp only [Side.heading] <;> omega

/-- No move of a pawn loses a row. -/
theorem gain_nonneg_of_reaches (reaches : board.reaches ⟨.pawn, side, here⟩ next = true) :
    0 ≤ gain side here next := by
  have rule : Board.pawnReaches ⟨.pawn, side, here⟩ next = true :=
    (Board.reaches_iff.mp reaches).2
  simp only [Board.pawnReaches, Square.rowsTo, Bool.or_eq_true, Bool.and_eq_true, beq_iff_eq]
    at rule
  unfold gain
  rcases rule with ⟨forward, -⟩ | ⟨⟨-, level⟩, -⟩
  · rw [forward]
    cases side <;> decide
  · have kept : (next.rank - here.rank) * side.heading = 0 := by
      rw [level, Int.zero_mul]
    exact Int.le_of_eq kept.symm

end Notation

namespace Board

open Square

variable {board : Board} {piece : Piece} {source target sq : Square} {side : Side}

/-- The rule of the piece's kind, read backward, lets it enter the square that it stands on: generals
and advisors in their palace, elephants on their bank, horses if they cannot be blocked. -/
def Retraceable (rules : Rules) (piece : Piece) : Prop :=
  match piece.kind with
  | .chariot | .cannon => True
  | .horse => rules.horseLegBlocking = false
  | .general | .advisor => piece.position.inPalace piece.side = true
  | .elephant => piece.position.onOwnBank piece.side = true
  | .pawn => False

/-- A pawn of the side can come from one square to the other in a number of moves, each on any board
whatsoever. -/
def Marches (side : Side) : Square → Square → Prop :=
  Relation.ReflTransGen fun here next =>
    ∃ board : Board, board.reaches ⟨.pawn, side, here⟩ next = true

theorem ne_of_free (stands : board.pieceOn source = some piece)
    (free : board.isOccupied target = false) : source ≠ target := by
  rintro rfl
  rw [isOccupied, stands] at free
  cases free

/-- The square that a piece has left is free. -/
theorem isOccupied_carry_source (stands : board.pieceOn source = some piece)
    (apart : source ≠ target) : (board.carry source target).isOccupied source = false := by
  rw [isOccupied, pieceOn_carry stands, if_neg apart, if_pos rfl]
  rfl

/-- Squares other than the two ends of a move are as occupied as before. -/
theorem isOccupied_carry (stands : board.pieceOn source = some piece) (notSource : sq ≠ source)
    (notTarget : sq ≠ target) :
    (board.carry source target).isOccupied sq = board.isOccupied sq := by
  rw [isOccupied, pieceOn_carry stands, if_neg notTarget, if_neg notSource, isOccupied]

/-- A piece that is carried to a free square and back has changed nothing. -/
theorem carry_back (inPlace : board.InPlace) (stands : board.pieceOn source = some piece)
    (free : board.isOccupied target = false) :
    (board.carry source target).carry target source = board := by
  have apart := ne_of_free stands free
  have moved : (board.carry source target).pieceOn target =
      some { piece with position := target } := by
    rw [pieceOn_carry stands, if_pos rfl]
  refine ext_pieceOn (by rw [rules_carry, rules_carry]) fun sq => ?_
  rw [pieceOn_carry moved, pieceOn_carry stands]
  by_cases onSource : sq = source
  · rw [if_pos onSource, onSource, stands, ← inPlace source piece stands]
  · rw [if_neg onSource, if_neg onSource]
    by_cases onTarget : sq = target
    · rw [if_pos onTarget, onTarget, pieceOn_eq_none free]
    · rw [if_neg onTarget, if_neg onTarget]

/-- The ends of a line do not count, so it stays as it was when a piece goes along it. -/
theorem between?_carry (stands : board.pieceOn source = some piece) :
    (board.carry source target).between? target source = board.between? source target := by
  rw [between?_comm]
  apply between?_congr
  intro sq between
  have notSource : sq ≠ source := by
    rintro rfl
    exact not_between_left between
  have notTarget : sq ≠ target := by
    rintro rfl
    exact not_between_right between
  exact isOccupied_carry stands notSource notTarget

/-- An elephant's move has the same eye from both ends, and nothing on the eye moves. -/
theorem opens_carry (stands : board.pieceOn source = some piece)
    (double : (source.rowsTo target).natAbs = 2 ∧ (source.colsTo target).natAbs = 2)
    (opens : board.opens source
      ((source.rowsTo target).sign, (source.colsTo target).sign) = true) :
    (board.carry source target).opens target
      ((target.rowsTo source).sign, (target.colsTo source).sign) = true := by
  have rows := two_mul_sign double.1
  have cols := two_mul_sign double.2
  simp only [Board.opens, Option.any_eq_true, Bool.not_eq_true', shift?_eq_some_iff] at opens ⊢
  obtain ⟨eye, stepped, free⟩ := opens
  rw [rowsTo_swap, colsTo_swap, Int.sign_neg, Int.sign_neg]
  -- The eye lies half way: one step from the source, and one step back from the target.
  have halfway : target.rank = eye.rank + (source.rowsTo target).sign ∧
      target.file = eye.file + (source.colsTo target).sign := by
    unfold rowsTo colsTo at *
    omega
  have notSource : eye ≠ source := by
    rw [Ne, Square.eq_iff]
    omega
  have notTarget : eye ≠ target := by
    rw [Ne, Square.eq_iff]
    omega
  refine ⟨eye, by omega, ?_⟩
  rw [isOccupied_carry stands notSource notTarget, free]

/-- To a free square a general only has its step. -/
theorem generalReaches_iff_of_free (free : board.isOccupied target = false) :
    board.generalReaches piece target = true ↔
      (piece.position.rowsTo target).natAbs + (piece.position.colsTo target).natAbs = 1 ∧
        target.inPalace piece.side = true := by
  unfold generalReaches
  by_cases step : (piece.position.rowsTo target).natAbs +
      (piece.position.colsTo target).natAbs = 1
  · rw [if_pos step, and_iff_right step]
  · simp [step, pieceOn_eq_none free]

/-- The rule that leads to a free square leads back from it. -/
theorem obeys_carry (stands : board.pieceOn piece.position = some piece)
    (free : board.isOccupied target = false) (rule : board.obeys piece target = true)
    (retraceable : Retraceable board.rules piece) :
    (board.carry piece.position target).obeys { piece with position := target } piece.position =
      true := by
  have left := isOccupied_carry_source stands (ne_of_free stands free)
  have rows := rowsTo_swap piece.position target
  have cols := colsTo_swap piece.position target
  unfold obeys Retraceable at *
  cases kind : piece.kind with
  | general =>
    simp only [kind] at rule retraceable
    obtain ⟨step, -⟩ := (generalReaches_iff_of_free free).mp rule
    refine (generalReaches_iff_of_free left).mpr ⟨?_, retraceable⟩
    simp only [rows, cols, Int.natAbs_neg, step]
  | advisor =>
    simp only [kind] at rule retraceable
    simp only [advisorReaches, Bool.and_eq_true, beq_iff_eq] at rule ⊢
    simp only [rows, cols, Int.natAbs_neg, rule.1, retraceable, and_self]
  | elephant =>
    simp only [kind] at rule retraceable
    obtain ⟨double, -, opens⟩ := elephantReaches_iff.mp rule
    refine elephantReaches_iff.mpr ⟨?_, retraceable, opens_carry stands double opens⟩
    simp only [rows, cols, Int.natAbs_neg, double, and_self]
  | horse =>
    simp only [kind] at rule retraceable
    obtain ⟨jump, -⟩ := horseReaches_iff.mp rule
    refine horseReaches_iff.mpr ⟨?_, ?_⟩
    · simp only [rows, cols, Int.natAbs_neg]
      exact jump
    · rw [rules_carry, retraceable]
      rfl
  | chariot =>
    simp only [kind, chariotReaches, beq_iff_eq] at rule ⊢
    rw [between?_carry stands, rule]
  | cannon =>
    simp only [kind, cannonReaches, beq_iff_eq, free, left] at rule ⊢
    rw [between?_carry stands, rule]
  | pawn =>
    simp only [kind] at retraceable

/-- However far a pawn marches, it has not lost a row. -/
theorem Marches.gain_nonneg {here last : Square} (marches : Marches side here last) :
    0 ≤ Notation.gain side here last := by
  induction marches with
  | refl =>
    have level := Notation.gain_add side here here here
    omega
  | @tail next last _ step ih =>
    obtain ⟨board, reaches⟩ := step
    have kept := Notation.gain_nonneg_of_reaches reaches
    rw [← Notation.gain_add side here next last]
    omega

/-- A pawn that has stepped forward never reaches its old square again. -/
theorem Marches.not_reaches (forward : source.shift? side.heading 0 = some target)
    (marches : Marches side target sq) (board : Board) :
    board.reaches ⟨.pawn, side, sq⟩ source = false := by
  rw [Bool.eq_false_iff]
  intro reaches
  have gained := Notation.gain_of_shift? forward
  have kept := marches.gain_nonneg
  have back := Notation.gain_nonneg_of_reaches reaches
  rw [Notation.gain_swap, ← Notation.gain_add side source target sq] at back
  omega

/-- On every board that can be built, a move to a free square is undone by carrying the piece back,
and the piece can reach its old square by its own rule if it stood where its rule lets it enter. A
pawn that has stepped forward cannot reach its old square, neither now nor after further moves. -/
theorem quiet_move_taken_back (built : board.Built) (stands : board.pieceOn source = some piece)
    (free : board.isOccupied target = false) (reaches : board.reaches piece target = true) :
    ∃ next, board.transfer source target = .ok (none, next) ∧
      next.pieceOn target = some { piece with position := target } ∧
      next.transfer target source = .ok (none, board) ∧
      (Retraceable board.rules piece →
        next.reaches { piece with position := target } source = true) ∧
      (piece.kind = .pawn → source.shift? piece.side.heading 0 = some target →
        ∀ later, Marches piece.side target later →
          ∀ other : Board, other.reaches ⟨.pawn, piece.side, later⟩ source = false) := by
  have position := built.inPlace source piece stands
  have apart := ne_of_free stands free
  have left := isOccupied_carry_source stands apart
  have arrived : (board.carry source target).pieceOn target =
      some { piece with position := target } := by
    rw [pieceOn_carry stands, if_pos rfl]
  refine ⟨board.carry source target, ?_, arrived, ?_, ?_, ?_⟩
  · rw [transfer_of_pieceOn stands, if_neg apart.symm, pieceOn_eq_none free]
  · rw [transfer_of_pieceOn arrived, if_neg apart, pieceOn_eq_none left,
      carry_back built.inPlace stands free]
  · intro retraceable
    subst position
    exact reaches_iff.mpr ⟨admits_of_free left,
      obeys_carry stands free (reaches_iff.mp reaches).2 retraceable⟩
  · intro _ forward later marches other
    exact marches.not_reaches forward other

/-- From the opening an elephant can go back to its place, while a pawn cannot, not even after
another step and from a board without other pieces. -/
theorem quiet_move_taken_back_elephant :
    (∃ next, (opening ⟨true⟩).transfer ⟨9, 2⟩ ⟨7, 0⟩ = .ok (none, next) ∧
      next.reaches ⟨.elephant, .red, ⟨7, 0⟩⟩ ⟨9, 2⟩ = true ∧
      next.transfer ⟨7, 0⟩ ⟨9, 2⟩ = .ok (none, opening ⟨true⟩)) ∧
    (∃ next, (opening ⟨true⟩).transfer ⟨6, 0⟩ ⟨5, 0⟩ = .ok (none, next) ∧
      next.reaches ⟨.pawn, .red, ⟨5, 0⟩⟩ ⟨6, 0⟩ = false ∧
      (empty ⟨true⟩).reaches ⟨.pawn, .red, ⟨4, 0⟩⟩ ⟨6, 0⟩ = false) := by
  have seen : (opening ⟨true⟩).pieceOn ⟨9, 2⟩ = some ⟨.elephant, .red, ⟨9, 2⟩⟩ ∧
      (opening ⟨true⟩).pieceOn ⟨6, 0⟩ = some ⟨.pawn, .red, ⟨6, 0⟩⟩ ∧
      (opening ⟨true⟩).isOccupied ⟨7, 0⟩ = false ∧ (opening ⟨true⟩).isOccupied ⟨5, 0⟩ = false ∧
      (opening ⟨true⟩).reaches ⟨.elephant, .red, ⟨9, 2⟩⟩ ⟨7, 0⟩ = true ∧
      (opening ⟨true⟩).reaches ⟨.pawn, .red, ⟨6, 0⟩⟩ ⟨5, 0⟩ = true := by
    decide +kernel
  obtain ⟨elephant, pawn, corner, ahead, jumps, steps⟩ := seen
  have another : Marches .red ⟨5, 0⟩ ⟨4, 0⟩ := .single ⟨empty ⟨true⟩, by decide +kernel⟩
  obtain ⟨next, moved, -, undone, back, -⟩ :=
    quiet_move_taken_back (.opening ⟨true⟩) elephant corner jumps
  obtain ⟨later, stepped, -, -, -, never⟩ :=
    quiet_move_taken_back (.opening ⟨true⟩) pawn ahead steps
  exact ⟨⟨next, moved, back rfl, undone⟩, later, stepped,
    never rfl (by decide) _ .refl later, never rfl (by decide) _ another (empty ⟨true⟩)⟩

end Board

end Xiangqi
