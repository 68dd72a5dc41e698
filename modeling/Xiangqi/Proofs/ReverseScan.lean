import Xiangqi.Proofs.FacingGenerals

/-!
# Danger seen from the general

The danger scan asks of every enemy piece whether it reaches the general. Seen from the general
there are five patterns to look for, `Board.Attacks`. With both generals in their palaces the two
views agree: a step of an enemy general or advisor ends in the other palace, an elephant stays on
its bank, and a pawn beside the general has crossed the river.
-/

namespace Xiangqi

namespace Square

variable {a b sq : Square} {side : Side}

/-- One square is a jump of a horse away from the other. -/
def Jump (a b : Square) : Prop :=
  ((a.rowsTo b).natAbs = 1 ∧ (a.colsTo b).natAbs = 2) ∨
    ((a.rowsTo b).natAbs = 2 ∧ (a.colsTo b).natAbs = 1)

/-- The squares touch at a corner. -/
def Diagonal (a b : Square) : Prop :=
  (a.rowsTo b).natAbs = 1 ∧ (a.colsTo b).natAbs = 1

/-- The square on the long side of the jump of a horse: beside the horse, and at a corner of the
square that it jumps to. -/
def Leg (horse target leg : Square) : Prop :=
  horse.distance leg = 1 ∧ Diagonal leg target

instance (a b : Square) : Decidable (Jump a b) :=
  inferInstanceAs (Decidable (_ ∨ _))

instance (horse target leg : Square) : Decidable (Leg horse target leg) :=
  inferInstanceAs (Decidable (_ = 1 ∧ _ = 1 ∧ _ = 1))

theorem jump_comm : Jump a b ↔ Jump b a := by
  unfold Jump rowsTo colsTo
  omega

theorem onOwnBank_congr (rows : a.row = b.row) (side : Side) :
    a.onOwnBank side = b.onOwnBank side := by
  cases side with
  | red => rw [onOwnBank, onOwnBank, rows]
  | black => rw [onOwnBank, onOwnBank, rows]

theorem inPalace_opponent_eq_false (housed : sq.inPalace side = true) :
    sq.inPalace side.opponent = false := by
  rw [Bool.eq_false_iff]
  intro other
  have far := Board.one_lt_rowsTo_of_inPalace housed other
  simp [rowsTo] at far

theorem onOwnBank_opponent_eq_false (housed : sq.inPalace side = true) :
    sq.onOwnBank side.opponent = false := by
  cases side with
  | red =>
    simp only [inPalace, Bool.and_eq_true, decide_eq_true_eq] at housed
    simp only [Side.opponent, onOwnBank, decide_eq_false_iff_not]
    omega
  | black =>
    simp only [inPalace, Bool.and_eq_true, decide_eq_true_eq] at housed
    simp only [Side.opponent, onOwnBank, decide_eq_false_iff_not]
    omega

end Square

namespace Board

open Square

/-- How an enemy of the given kind on `sq` attacks the side's general on `home`. -/
def Attacks (board : Board) (side : Side) (home sq : Square) : Kind → Prop
  | .chariot => board.OpenFile home sq ∨ board.OpenRank home sq
  | .cannon => home.InLine sq ∧
      ∃ screen, ∀ mid, (Between home sq mid ∧ board.isOccupied mid = true) ↔ mid = screen
  | .horse => Jump home sq ∧ (board.rules.horseLegBlocking = true →
      ∃ leg, Leg sq home leg ∧ board.isOccupied leg = false)
  | .pawn => (home.row = sq.row ∧ (home.colsTo sq).natAbs = 1) ∨
      sq.shift? side.opponent.heading 0 = some home
  | .general => board.OpenFile home sq
  | .advisor | .elephant => False

/-- Some enemy attacks the side's general on `home`. -/
def Attacked (board : Board) (side : Side) (home : Square) : Prop :=
  ∃ sq enemy, board.pieceOn sq = some enemy ∧ enemy.side = side.opponent ∧
    board.Attacks side home sq enemy.kind

variable {board : Board} {side : Side} {home sq : Square} {enemy : Piece}

/-- The leg is the next square on the way of the long side. -/
theorem shift?_longSide_iff (jump : Jump sq home) {leg : Square} :
    sq.shift? (longSide (sq.rowsTo home) (sq.colsTo home)).1
      (longSide (sq.rowsTo home) (sq.colsTo home)).2 = some leg ↔ Leg sq home leg := by
  have row : home.rank = sq.rank + sq.rowsTo home := by rw [rowsTo]; omega
  have col : home.file = sq.file + sq.colsTo home := by rw [colsTo]; omega
  unfold Jump at jump
  generalize sq.rowsTo home = rows at row jump ⊢
  generalize sq.colsTo home = cols at col jump ⊢
  rw [shift?_eq_some_iff, Leg, Diagonal, distance, rowsTo, colsTo, row, col]
  rcases jump with ⟨single, double⟩ | ⟨double, single⟩
  · have wide : longSide rows cols = (0, cols.sign) := if_neg (by omega)
    have twice := two_mul_sign double
    rw [wide]
    generalize cols.sign = half at twice ⊢
    omega
  · have tall : longSide rows cols = (rows.sign, 0) := if_pos double
    have twice := two_mul_sign double
    rw [tall]
    generalize rows.sign = half at twice ⊢
    omega

theorem opens_longSide_iff (jump : Jump sq home) :
    board.opens sq (longSide (sq.rowsTo home) (sq.colsTo home)) = true ↔
      ∃ leg, Leg sq home leg ∧ board.isOccupied leg = false := by
  simp only [opens, Option.any_eq_true, shift?_longSide_iff jump, Bool.not_eq_true']

/-- A pawn that stands beside the general has crossed the river. -/
theorem pawnReaches_iff (position : enemy.position = sq) (hostile : enemy.side = side.opponent)
    (housed : home.inPalace side = true) :
    pawnReaches enemy home = true ↔ (home.row = sq.row ∧ (home.colsTo sq).natAbs = 1) ∨
      sq.shift? side.opponent.heading 0 = some home := by
  have forward : sq.shift? side.opponent.heading 0 = some home ↔
      sq.rowsTo home = side.opponent.heading ∧ sq.colsTo home = 0 := by
    rw [shift?_eq_some_iff, rowsTo, colsTo]
    omega
  have sideways : sq.onOwnBank side.opponent = false ∧ sq.rowsTo home = 0 ∧
      (sq.colsTo home).natAbs = 1 ↔ home.row = sq.row ∧ (home.colsTo sq).natAbs = 1 := by
    have sameRow : sq.rowsTo home = 0 ↔ home.row = sq.row := by
      rw [row_eq_iff, rowsTo]
      omega
    have steps : (sq.colsTo home).natAbs = (home.colsTo sq).natAbs := by
      unfold colsTo
      omega
    rw [sameRow, steps]
    constructor
    · exact And.right
    · rintro ⟨rows, beside⟩
      refine ⟨?_, rows, beside⟩
      rw [← onOwnBank_congr rows, onOwnBank_opponent_eq_false housed]
  rw [forward, ← sideways, or_comm]
  simp only [pawnReaches, position, hostile, Bool.or_eq_true, Bool.and_eq_true, beq_iff_eq,
    Bool.not_eq_true', and_assoc]

/-- Generals in their palaces only see each other along a file. -/
theorem reaches_home_iff_of_general (isGeneral : enemy.kind = .general)
    (position : enemy.position = sq) (hostile : enemy.side = side.opponent)
    (holds : board.holdsGeneral side home = true) (housed : home.inPalace side = true)
    (enemyHoused : sq.inPalace side.opponent = true) :
    board.reaches enemy home = true ↔ board.OpenFile home sq := by
  have owner : enemy.side.opponent = side := by rw [hostile, Side.opponent_opponent]
  have far := one_lt_rowsTo_of_inPalace housed enemyHoused
  rw [reaches_general_iff isGeneral (owner.symm ▸ holds), position]
  constructor
  · rintro (⟨-, inside⟩ | ⟨-, -, line | line⟩)
    · rw [hostile, inPalace_opponent_eq_false housed] at inside
      cases inside
    · exact line.symm
    · have row := row_eq_iff.mp line.1
      unfold rowsTo at far
      omega
  · intro line
    have apart : sq ≠ home := by
      rintro rfl
      simp [rowsTo] at far
    refine .inr ⟨?_, apart, .inl line.symm⟩
    unfold rowsTo at far
    unfold distance
    omega

/-- An enemy on the board reaches the general exactly if it attacks it as its kind does. -/
theorem reaches_home_iff (stands : board.pieceOn sq = some enemy)
    (position : enemy.position = sq) (hostile : enemy.side = side.opponent)
    (holds : board.holdsGeneral side home = true) (housed : home.inPalace side = true)
    (enemyHoused : enemy.kind = .general → sq.inPalace side.opponent = true) :
    board.reaches enemy home = true ↔ board.Attacks side home sq enemy.kind := by
  obtain ⟨general, onHome, owned, -⟩ := holdsGeneral_eq_true_iff.mp holds
  have foreign : general.side = enemy.side.opponent := by
    rw [owned, hostile, Side.opponent_opponent]
  have admitted : board.admits enemy.side home = true := (admits_of_pieceOn onHome).mpr foreign
  have occupied : board.isOccupied home = true := by rw [isOccupied, onHome, Option.isSome_some]
  have apart : sq ≠ home := by
    intro same
    rw [same, onHome] at stands
    cases stands
    exact Side.opponent_ne _ foreign.symm
  cases kind : enemy.kind with
  | chariot =>
    rw [reaches_iff, and_iff_right admitted, obeys, kind]
    simp only [chariotReaches, beq_iff_eq, position]
    rw [between?_eq_some_zero_iff_open, and_iff_right apart, openFile_comm, openRank_comm, Attacks]
  | cannon =>
    have between : ∀ mid, Between sq home mid ↔ Between home sq mid := fun mid => between_comm
    rw [reaches_iff, and_iff_right admitted, obeys, kind]
    simp only [cannonReaches, occupied, if_true, beq_iff_eq, position]
    rw [between?_eq_some_one_iff, and_iff_right apart, inLine_comm, Attacks]
    simp only [between]
  | horse =>
    rw [reaches_iff, and_iff_right admitted, obeys, kind]
    simp only
    rw [horseReaches_iff, position, Attacks, jump_comm]
    refine and_congr_right fun jump => ?_
    rw [← opens_longSide_iff jump, Bool.or_eq_true, Bool.not_eq_true', ← Bool.not_eq_true,
      ← imp_iff_not_or]
  | pawn =>
    rw [reaches_iff, and_iff_right admitted, obeys, kind]
    exact pawnReaches_iff position hostile housed
  | general =>
    exact reaches_home_iff_of_general kind position hostile holds housed (enemyHoused kind)
  | advisor =>
    rw [reaches_iff, obeys, kind]
    simp [advisorReaches, hostile, inPalace_opponent_eq_false housed, Attacks]
  | elephant =>
    rw [reaches_iff, obeys, kind]
    simp [elephantReaches, hostile, onOwnBank_opponent_eq_false housed, Attacks]

/-- On a board with one general for each side, both in their palaces, a side is in check exactly if
some enemy attacks its general in one of the five patterns, and the scan always answers. In
particular no advisor and no elephant gives check. -/
theorem inCheck_iff_attacked (built : board.Built)
    (oneGeneral : ∀ side, board.generalCount side = 1)
    (housed : ∀ side sq, board.holdsGeneral side sq = true → sq.inPalace side = true)
    (side : Side) :
    ∃ home, board.SoleGeneral side home ∧
      (board.inCheck side = .ok true ↔ board.Attacked side home) ∧
      (board.inCheck side = .ok false ↔ ¬ board.Attacked side home) ∧
      ∀ sq enemy, board.pieceOn sq = some enemy → enemy.side = side.opponent →
        enemy.kind = .advisor ∨ enemy.kind = .elephant → board.reaches enemy home = false := by
  have wellFormed : board.WellFormed := ⟨built.inPlace, oneGeneral⟩
  obtain ⟨home, sole⟩ := wellFormed.exists_soleGeneral side
  have holds := (sole home).mpr rfl
  have view : ∀ sq enemy, board.pieceOn sq = some enemy → enemy.side = side.opponent →
      (board.reaches enemy home = true ↔ board.Attacks side home sq enemy.kind) := by
    intro sq enemy stands hostile
    apply reaches_home_iff stands (wellFormed.inPlace sq enemy stands) hostile holds
      (housed side home holds)
    intro isGeneral
    apply housed side.opponent sq
    exact holdsGeneral_eq_true_iff.mpr ⟨enemy, stands, hostile, isGeneral⟩
  have danger : board.inDanger side = true ↔ board.Attacked side home := by
    rw [sole.inDanger_iff wellFormed.inPlace]
    constructor
    · rintro ⟨sq, enemy, stands, hostile, reaches⟩
      exact ⟨sq, enemy, stands, hostile, (view sq enemy stands hostile).mp reaches⟩
    · rintro ⟨sq, enemy, stands, hostile, attacks⟩
      exact ⟨sq, enemy, stands, hostile, (view sq enemy stands hostile).mpr attacks⟩
  have answer := wellFormed.inPlace.inCheck_eq (wellFormed.hasGeneral side)
  refine ⟨home, sole, ?_, ?_, ?_⟩
  · rw [answer, Except.ok.injEq, danger]
  · rw [answer, Except.ok.injEq, ← danger, Bool.not_eq_true]
  · intro sq enemy stands hostile harmless
    rw [Bool.eq_false_iff, Ne, view sq enemy stands hostile]
    rcases harmless with kind | kind
    · rw [kind]
      exact id
    · rw [kind]
      exact id

/-- A horse whose leg is free gives check past an advisor next to the general, where horses can be
blocked. -/
theorem inCheck_iff_attacked_by_horse :
    ∃ board, Board.ofPlacement [⟨.general, .red, 9, 4⟩, ⟨.general, .black, 0, 3⟩,
        ⟨.advisor, .red, 8, 4⟩, ⟨.horse, .black, 7, 3⟩] ⟨true⟩ = .ok board ∧
      board.Attacked .red ⟨9, 4⟩ ∧ board.inCheck .red = .ok true := by
  have outcome : (Board.ofPlacement [⟨.general, .red, 9, 4⟩, ⟨.general, .black, 0, 3⟩,
      ⟨.advisor, .red, 8, 4⟩, ⟨.horse, .black, 7, 3⟩] ⟨true⟩).toOption.map (fun board =>
        (decide (∀ side ∈ Side.all, ∀ sq ∈ Square.all,
          board.holdsGeneral side sq = true → sq.inPalace side = true),
        board.holdsGeneral .red ⟨9, 4⟩, board.pieceOn ⟨7, 3⟩, board.isOccupied ⟨8, 3⟩)) =
      some (true, true, some ⟨.horse, .black, ⟨7, 3⟩⟩, false) := by
    decide +kernel
  obtain ⟨board, placed, seen⟩ := Fallible.exists_ok_of_map_eq_some outcome
  simp only [Prod.mk.injEq, decide_eq_true_eq] at seen
  obtain ⟨housed, holds, stands, free⟩ := seen
  have wellFormed := wellFormed_of_ofPlacement placed
  obtain ⟨home, sole, check_iff, -, -⟩ := inCheck_iff_attacked (.ofPlacement placed)
    wellFormed.oneGeneral
    (fun side sq => housed side (Side.mem_all side) sq (Square.mem_all sq)) .red
  cases (sole _).mp holds
  have leg : Leg ⟨7, 3⟩ ⟨9, 4⟩ ⟨8, 3⟩ := by decide
  have jump : Jump ⟨9, 4⟩ ⟨7, 3⟩ := by decide
  have attacked : board.Attacked .red ⟨9, 4⟩ :=
    ⟨⟨7, 3⟩, _, stands, rfl, jump, fun _ => ⟨⟨8, 3⟩, leg, free⟩⟩
  exact ⟨board, placed, attacked, check_iff.mpr attacked⟩

end Board

end Xiangqi
