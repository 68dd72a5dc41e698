import Xiangqi.Proofs.Board.Ray
import Xiangqi.Proofs.Reach

/-!
# Moves found from the piece

`Board.reaches` tests a square that it is given. `Board.generate` goes the other way: it starts at
the piece and lists the squares it can go to, walking out along rays for chariots, cannons and
facing generals, and taking single steps and jumps for the other kinds. Both ways give the same
squares, on every board and for every piece, whether or not the piece stands on the board.
-/

namespace Xiangqi

namespace Square

/-- The four ways along diagonals. -/
def diagonalWays : List (Int × Int) := [(-1, -1), (-1, 1), (1, -1), (1, 1)]

/-- The two jumps of a horse whose long side goes the given way. -/
def jumps (way : Int × Int) : List (Int × Int) :=
  [(2 * way.1 + way.2, 2 * way.2 + way.1), (2 * way.1 - way.2, 2 * way.2 - way.1)]

end Square

namespace Board

open Square

/-- A piece of the side's opponent stands on the square. -/
def holdsEnemy (board : Board) (side : Side) (sq : Square) : Bool :=
  (board.pieceOn sq).any fun other => other.side == side.opponent

/-- The free squares of a ray before its first occupied one. -/
def glide (board : Board) (ray : List Square) : List Square :=
  ray.takeWhile fun sq => !board.isOccupied sq

/-- The occupied square of a ray behind so many others, if an enemy stands there. -/
def capture (board : Board) (side : Side) (screens : Nat) (ray : List Square) : List Square :=
  ((ray.filter board.isOccupied)[screens]?.filter (board.holdsEnemy side)).toList

/-- The squares to which the steps lead, as far as they are on the board and hold no own piece. -/
def landings (board : Board) (piece : Piece) (steps : List (Int × Int)) : List Square :=
  (steps.filterMap fun step => piece.position.shift? step.1 step.2).filter (board.admits piece.side)

/-- Single steps inside the palace, and the opposing general at the end of a ray if it is more than
a step away. -/
def generalSquares (board : Board) (piece : Piece) : List Square :=
  (board.landings piece straightWays).filter (inPalace · piece.side) ++
    (straightWays.flatMap fun way => board.capture piece.side 0 (piece.position.ray way)).filter
      fun sq => board.holdsGeneral piece.side.opponent sq && 1 < piece.position.distance sq

/-- Diagonal steps inside the palace. -/
def advisorSquares (board : Board) (piece : Piece) : List Square :=
  (board.landings piece diagonalWays).filter (inPalace · piece.side)

/-- Double diagonal steps on the own bank, each over a free square. -/
def elephantSquares (board : Board) (piece : Piece) : List Square :=
  let ways := diagonalWays.filter (board.opens piece.position)
  (board.landings piece (ways.map fun way => (2 * way.1, 2 * way.2))).filter
    (onOwnBank · piece.side)

/-- The eight jumps; if the rules say so, only those whose long side starts with a free square. -/
def horseSquares (board : Board) (piece : Piece) : List Square :=
  let ways := straightWays.filter fun way =>
    !board.rules.horseLegBlocking || board.opens piece.position way
  board.landings piece (ways.flatMap jumps)

/-- Along each ray the free squares, and an enemy that ends them. -/
def chariotSquares (board : Board) (piece : Piece) : List Square :=
  straightWays.flatMap fun way =>
    board.glide (piece.position.ray way) ++ board.capture piece.side 0 (piece.position.ray way)

/-- Along each ray the free squares, and an enemy that is the second piece on the ray. -/
def cannonSquares (board : Board) (piece : Piece) : List Square :=
  straightWays.flatMap fun way =>
    board.glide (piece.position.ray way) ++ board.capture piece.side 1 (piece.position.ray way)

/-- The step forward and, from the opponent's bank, the two steps sideways. -/
def pawnSquares (board : Board) (piece : Piece) : List Square :=
  let sideways := if piece.position.onOwnBank piece.side then [] else [(0, -1), (0, 1)]
  board.landings piece ((piece.side.heading, 0) :: sideways)

/-- The squares to which the piece can go by the rule of its kind. -/
def generate (board : Board) (piece : Piece) : List Square :=
  match piece.kind with
  | .general => board.generalSquares piece
  | .advisor => board.advisorSquares piece
  | .elephant => board.elephantSquares piece
  | .horse => board.horseSquares piece
  | .chariot => board.chariotSquares piece
  | .cannon => board.cannonSquares piece
  | .pawn => board.pawnSquares piece

section Lists

variable {α : Type} {test : α → Bool} {items : List α} {item first : α} {rest : List α}

/-- An item of a list is its head or an item of its rest, with the head among what comes before. -/
theorem exists_split_cons {property : List α → Prop} :
    (∃ before after, first :: rest = before ++ item :: after ∧ property before) ↔
      (first = item ∧ property []) ∨
        ∃ before after, rest = before ++ item :: after ∧ property (first :: before) := by
  constructor
  · rintro ⟨before, after, split, holds⟩
    cases before with
    | nil => exact .inl ⟨(List.cons.inj split).1, holds⟩
    | cons other before =>
      obtain ⟨rfl, others⟩ := List.cons.inj split
      exact .inr ⟨before, after, others, holds⟩
  · rintro (⟨rfl, holds⟩ | ⟨before, after, rfl, holds⟩)
    · exact ⟨[], rest, rfl, holds⟩
    · exact ⟨first :: before, after, rfl, holds⟩

/-- The items before the first that passes the test fail it and have only such items before them. -/
theorem mem_takeWhile_not_iff :
    item ∈ items.takeWhile (fun other => !test other) ↔ test item = false ∧
      ∃ before after, items = before ++ item :: after ∧ before.countP test = 0 := by
  induction items with
  | nil => simp
  | cons first rest ih =>
    rw [exists_split_cons]
    by_cases passes : test first = true
    · have empty : (first :: rest).takeWhile (fun other => !test other) = [] := by simp [passes]
      rw [empty]
      constructor
      · intro member
        cases member
      · rintro ⟨fails, ⟨rfl, -⟩ | ⟨before, after, -, counted⟩⟩
        · rw [passes] at fails
          cases fails
        · simp [passes] at counted
    · rw [List.takeWhile_cons_of_pos (by simp [passes]), List.mem_cons, ih]
      simp only [List.countP_cons_of_neg passes, List.countP_nil, and_true]
      constructor
      · rintro (rfl | ⟨fails, found⟩)
        · exact ⟨Bool.eq_false_iff.mpr passes, .inl rfl⟩
        · exact ⟨fails, .inr found⟩
      · rintro ⟨fails, rfl | found⟩
        · exact .inl rfl
        · exact .inr ⟨fails, found⟩

/-- Among the items that pass the test, the one behind `n` others is behind `n` that pass. -/
theorem getElem?_filter_eq_some_iff {n : Nat} :
    (items.filter test)[n]? = some item ↔ test item = true ∧
      ∃ before after, items = before ++ item :: after ∧ before.countP test = n := by
  induction items generalizing n with
  | nil => simp
  | cons first rest ih =>
    rw [exists_split_cons]
    by_cases passes : test first = true
    · rw [List.filter_cons_of_pos passes]
      simp only [List.countP_cons_of_pos passes, List.countP_nil]
      cases n with
      | zero =>
        have head : first = item → test item = true := fun same => same ▸ passes
        simpa using head
      | succ n =>
        rw [List.getElem?_cons_succ, ih]
        simp
    · rw [List.filter_cons_of_neg passes, ih]
      simp only [List.countP_cons_of_neg passes, List.countP_nil]
      constructor
      · rintro ⟨holds, found⟩
        exact ⟨holds, .inr found⟩
      · rintro ⟨holds, ⟨rfl, -⟩ | found⟩
        · exact absurd holds passes
        · exact ⟨holds, found⟩

end Lists

variable {board : Board} {piece : Piece} {here target : Square} {side : Side} {way : Int × Int}
  {steps : List (Int × Int)} {screens : Nat}

theorem holdsEnemy_iff : board.holdsEnemy side target = true ↔
    board.isOccupied target = true ∧ board.admits side target = true := by
  rw [holdsEnemy, isOccupied, admits]
  cases board.pieceOn target with
  | none => simp
  | some other =>
    simp only [Option.any_some, Option.isSome_some, beq_iff_eq, true_and, Bool.not_eq_true',
      beq_eq_false_iff_ne]
    constructor
    · intro hostile
      rw [hostile]
      exact Side.opponent_ne side
    · exact Side.eq_opponent_of_ne

/-- Some ray from here has the target among its free squares before the first occupied one. -/
theorem exists_mem_glide_iff :
    (∃ way ∈ straightWays, target ∈ board.glide (here.ray way)) ↔
      board.between? here target = some 0 ∧ board.isOccupied target = false := by
  simp only [glide, mem_takeWhile_not_iff, between?_eq_some_iff]
  constructor
  · rintro ⟨way, straight, free, before, after, split, counted⟩
    exact ⟨⟨way, straight, before, after, split, counted⟩, free⟩
  · rintro ⟨⟨way, straight, before, after, split, counted⟩, free⟩
    exact ⟨way, straight, free, before, after, split, counted⟩

/-- On some ray from here an enemy stands on the target, behind so many others. -/
theorem exists_mem_capture_iff :
    (∃ way ∈ straightWays, target ∈ board.capture side screens (here.ray way)) ↔
      board.between? here target = some screens ∧ board.holdsEnemy side target = true := by
  simp only [capture, Option.mem_toList, Option.filter_eq_some_iff,
    getElem?_filter_eq_some_iff, between?_eq_some_iff]
  constructor
  · rintro ⟨way, straight, ⟨-, before, after, split, counted⟩, hostile⟩
    exact ⟨⟨way, straight, before, after, split, counted⟩, hostile⟩
  · rintro ⟨⟨way, straight, before, after, split, counted⟩, hostile⟩
    have occupied := (holdsEnemy_iff.mp hostile).1
    exact ⟨way, straight, ⟨occupied, before, after, split, counted⟩, hostile⟩

theorem shift?_eq_some_iff_to {rows cols : Int} :
    here.shift? rows cols = some target ↔
      (here.rowsTo target, here.colsTo target) = (rows, cols) := by
  rw [shift?_eq_some_iff, Prod.mk.injEq, rowsTo, colsTo]
  omega

theorem mem_landings_iff :
    target ∈ board.landings piece steps ↔
      (piece.position.rowsTo target, piece.position.colsTo target) ∈ steps ∧
        board.admits piece.side target = true := by
  simp only [landings, List.mem_filter, List.mem_filterMap, shift?_eq_some_iff_to]
  constructor
  · rintro ⟨⟨step, member, same⟩, admitted⟩
    exact ⟨same ▸ member, admitted⟩
  · rintro ⟨member, admitted⟩
    exact ⟨⟨_, member, rfl⟩, admitted⟩

theorem mem_diagonalWays_iff {rows cols : Int} :
    (rows, cols) ∈ diagonalWays ↔ rows.natAbs = 1 ∧ cols.natAbs = 1 := by
  simp only [diagonalWays, List.mem_cons, Prod.mk.injEq, List.not_mem_nil, or_false]
  omega

theorem mem_straightWays_iff_natAbs {rows cols : Int} :
    (rows, cols) ∈ straightWays ↔ rows.natAbs + cols.natAbs = 1 := by
  rw [mem_straightWays_iff]
  omega

theorem mem_chariotSquares_iff :
    target ∈ board.chariotSquares piece ↔
      board.admits piece.side target = true ∧ board.chariotReaches piece target = true := by
  simp only [chariotSquares, List.mem_flatMap, List.mem_append, and_or_left, exists_or,
    exists_mem_glide_iff, exists_mem_capture_iff, holdsEnemy_iff, chariotReaches, beq_iff_eq]
  constructor
  · rintro (⟨line, free⟩ | ⟨line, -, admitted⟩)
    · exact ⟨admits_of_free free, line⟩
    · exact ⟨admitted, line⟩
  · rintro ⟨admitted, line⟩
    cases occupied : board.isOccupied target with
    | false => exact .inl ⟨line, rfl⟩
    | true => exact .inr ⟨line, rfl, admitted⟩

theorem mem_cannonSquares_iff :
    target ∈ board.cannonSquares piece ↔
      board.admits piece.side target = true ∧ board.cannonReaches piece target = true := by
  simp only [cannonSquares, List.mem_flatMap, List.mem_append, and_or_left, exists_or,
    exists_mem_glide_iff, exists_mem_capture_iff, holdsEnemy_iff, cannonReaches, beq_iff_eq]
  constructor
  · rintro (⟨line, free⟩ | ⟨line, occupied, admitted⟩)
    · exact ⟨admits_of_free free, by simpa [free] using line⟩
    · exact ⟨admitted, by simpa [occupied] using line⟩
  · rintro ⟨admitted, line⟩
    cases occupied : board.isOccupied target with
    | false => exact .inl ⟨by simpa [occupied] using line, rfl⟩
    | true => exact .inr ⟨by simpa [occupied] using line, rfl, admitted⟩

theorem mem_advisorSquares_iff :
    target ∈ board.advisorSquares piece ↔
      board.admits piece.side target = true ∧ advisorReaches piece target = true := by
  simp only [advisorSquares, List.mem_filter, mem_landings_iff, mem_diagonalWays_iff,
    advisorReaches, Bool.and_eq_true, beq_iff_eq]
  tauto

theorem mem_pawnSquares_iff :
    target ∈ board.pawnSquares piece ↔
      board.admits piece.side target = true ∧ pawnReaches piece target = true := by
  simp only [pawnSquares, mem_landings_iff, List.mem_cons, Prod.mk.injEq, pawnReaches,
    Bool.or_eq_true, Bool.and_eq_true, beq_iff_eq, Bool.not_eq_true']
  cases piece.position.onOwnBank piece.side with
  | true => simp [and_comm]
  | false =>
    have beside : (piece.position.colsTo target).natAbs = 1 ↔
        piece.position.colsTo target = -1 ∨ piece.position.colsTo target = 1 := by omega
    simp only [Bool.false_eq_true, if_false, List.mem_cons, Prod.mk.injEq, List.not_mem_nil,
      or_false, true_and, beside]
    tauto

theorem holdsEnemy_and_holdsGeneral_iff (board : Board) (side : Side) (target : Square) :
    (board.holdsEnemy side target = true ∧ board.holdsGeneral side.opponent target = true) ↔
      board.admits side target = true ∧ (board.pieceOn target).any Piece.isGeneral = true := by
  rw [holdsEnemy_iff, admits, isOccupied, holdsGeneral]
  cases board.pieceOn target with
  | none => simp
  | some other =>
    simp only [Option.isSome_some, Option.any_some, true_and, Bool.not_eq_true', Bool.and_eq_true,
      beq_eq_false_iff_ne, beq_iff_eq]
    constructor
    · rintro ⟨foreign, -, isGeneral⟩
      exact ⟨foreign, isGeneral⟩
    · rintro ⟨foreign, isGeneral⟩
      exact ⟨foreign, Side.eq_opponent_of_ne foreign, isGeneral⟩

theorem mem_generalSquares_iff :
    target ∈ board.generalSquares piece ↔
      board.admits piece.side target = true ∧ board.generalReaches piece target = true := by
  have far : piece.position.distance target =
      (piece.position.rowsTo target).natAbs + (piece.position.colsTo target).natAbs := rfl
  simp only [generalSquares, List.mem_append, List.mem_filter, List.mem_flatMap, mem_landings_iff,
    mem_straightWays_iff_natAbs, exists_mem_capture_iff, Bool.and_eq_true, decide_eq_true_eq,
    generalReaches, far]
  by_cases step :
      (piece.position.rowsTo target).natAbs + (piece.position.colsTo target).natAbs = 1
  · simp [step]
  · rw [if_neg step]
    have apart : board.between? piece.position target = some 0 →
        1 < (piece.position.rowsTo target).natAbs + (piece.position.colsTo target).natAbs := by
      intro line
      have differs := (board.between?_eq_some_zero_iff.mp line).1
      rw [Ne, Square.eq_iff] at differs
      unfold rowsTo colsTo at step ⊢
      omega
    have general := board.holdsEnemy_and_holdsGeneral_iff piece.side target
    simp only [step, false_and, false_or, Bool.and_eq_true, beq_iff_eq]
    tauto

/-- A double diagonal step is twice the step of its signs. -/
theorem mem_double_iff {rows cols : Int} :
    (way ∈ diagonalWays ∧ (rows, cols) = (2 * way.1, 2 * way.2)) ↔
      (rows.natAbs = 2 ∧ cols.natAbs = 2) ∧ way = (rows.sign, cols.sign) := by
  obtain ⟨alongRows, alongCols⟩ := way
  rw [mem_diagonalWays_iff, Prod.mk.injEq, Prod.mk.injEq]
  constructor
  · rintro ⟨⟨single, alsoSingle⟩, rfl, rfl⟩
    have rowCases : alongRows = 1 ∨ alongRows = -1 := by omega
    have colCases : alongCols = 1 ∨ alongCols = -1 := by omega
    rcases rowCases with rfl | rfl <;> rcases colCases with rfl | rfl <;> decide
  · rintro ⟨⟨double, alsoDouble⟩, rfl, rfl⟩
    have rowCases : rows = 2 ∨ rows = -2 := by omega
    have colCases : cols = 2 ∨ cols = -2 := by omega
    rcases rowCases with rfl | rfl <;> rcases colCases with rfl | rfl <;> decide

theorem mem_elephantSquares_iff :
    target ∈ board.elephantSquares piece ↔
      board.admits piece.side target = true ∧ board.elephantReaches piece target = true := by
  have steps : (piece.position.rowsTo target, piece.position.colsTo target) ∈
      (diagonalWays.filter (board.opens piece.position)).map
        (fun way => (2 * way.1, 2 * way.2)) ↔
      ((piece.position.rowsTo target).natAbs = 2 ∧ (piece.position.colsTo target).natAbs = 2) ∧
        board.opens piece.position
          ((piece.position.rowsTo target).sign, (piece.position.colsTo target).sign) = true := by
    simp only [List.mem_map, List.mem_filter]
    constructor
    · rintro ⟨way, ⟨member, free⟩, same⟩
      obtain ⟨double, rfl⟩ := mem_double_iff.mp ⟨member, same.symm⟩
      exact ⟨double, free⟩
    · rintro ⟨double, free⟩
      obtain ⟨member, same⟩ := mem_double_iff.mpr ⟨double, rfl⟩
      exact ⟨_, ⟨member, free⟩, same.symm⟩
  simp only [elephantSquares, List.mem_filter, mem_landings_iff, steps, elephantReaches_iff]
  tauto

/-- A jump goes two steps along its long side and one across. -/
theorem mem_jumps_iff {rows cols : Int} :
    (way ∈ straightWays ∧ (rows, cols) ∈ jumps way) ↔
      ((rows.natAbs = 1 ∧ cols.natAbs = 2) ∨ (rows.natAbs = 2 ∧ cols.natAbs = 1)) ∧
        way = longSide rows cols := by
  constructor
  · rintro ⟨straight, jump⟩
    simp only [straightWays, List.mem_cons, List.not_mem_nil, or_false] at straight
    rcases straight with rfl | rfl | rfl | rfl <;>
      simp only [jumps, List.mem_cons, Prod.mk.injEq, List.not_mem_nil, or_false] at jump <;>
      rcases jump with ⟨rfl, rfl⟩ | ⟨rfl, rfl⟩ <;> decide
  · rintro ⟨⟨single, double⟩ | ⟨double, single⟩, rfl⟩
    · have rowCases : rows = 1 ∨ rows = -1 := by omega
      have colCases : cols = 2 ∨ cols = -2 := by omega
      rcases rowCases with rfl | rfl <;> rcases colCases with rfl | rfl <;> decide
    · have rowCases : rows = 2 ∨ rows = -2 := by omega
      have colCases : cols = 1 ∨ cols = -1 := by omega
      rcases rowCases with rfl | rfl <;> rcases colCases with rfl | rfl <;> decide

theorem mem_horseSquares_iff :
    target ∈ board.horseSquares piece ↔
      board.admits piece.side target = true ∧ board.horseReaches piece target = true := by
  simp only [horseSquares, mem_landings_iff, List.mem_flatMap, List.mem_filter, horseReaches_iff]
  constructor
  · rintro ⟨⟨way, ⟨straight, free⟩, jump⟩, admitted⟩
    obtain ⟨shape, rfl⟩ := mem_jumps_iff.mp ⟨straight, jump⟩
    exact ⟨admitted, shape, free⟩
  · rintro ⟨admitted, shape, free⟩
    obtain ⟨straight, jump⟩ := mem_jumps_iff.mpr ⟨shape, rfl⟩
    exact ⟨⟨_, ⟨straight, free⟩, jump⟩, admitted⟩

/-- Testing all ninety squares and starting at the piece give the same squares. -/
theorem mem_reachOf_iff_generated (board : Board) (piece : Piece) (target : Square) :
    target ∈ board.reachOf piece ↔ target ∈ board.generate piece := by
  rw [reachOf, List.mem_filter, reaches_iff, and_iff_right (mem_all target), obeys, generate]
  cases piece.kind with
  | general => exact mem_generalSquares_iff.symm
  | advisor => exact mem_advisorSquares_iff.symm
  | elephant => exact mem_elephantSquares_iff.symm
  | horse => exact mem_horseSquares_iff.symm
  | chariot => exact mem_chariotSquares_iff.symm
  | cannon => exact mem_cannonSquares_iff.symm
  | pawn => exact mem_pawnSquares_iff.symm

end Board

end Xiangqi
