import Xiangqi.Proofs.Board.Line

/-!
# Rays

A ray is what one meets on a walk from a square in equal steps until the board ends. The squares
that come before a target on a ray are the squares between, so the number of pieces between two
squares can be read off the ray that leads from one to the other: `Board.between?_eq_some_iff`.
-/

namespace Xiangqi

namespace Square

variable {here next target : Square} {way : Int × Int} {steps : Nat} {before after : List Square}

/-- The four ways along columns and rows, as changes of row and column in one step. -/
def straightWays : List (Int × Int) := [(-1, 0), (1, 0), (0, -1), (0, 1)]

/-- The squares met on a walk in equal steps, nearest first. The walk ends with the board or after
the given number of steps. -/
def walkOut (way : Int × Int) : Nat → Square → List Square
  | 0, _ => []
  | steps + 1, here =>
    match here.shift? way.1 way.2 with
    | none => []
    | some next => next :: walkOut way steps next

/-- The squares from one square to the edge of the board; no straight way has more than nine. -/
def ray (here : Square) (way : Int × Int) : List Square :=
  walkOut way 9 here

/-- The target lies in the given direction. -/
def Ahead (here target : Square) (way : Int × Int) : Prop :=
  (target.rank - here.rank).sign = way.1 ∧ (target.file - here.file).sign = way.2

theorem mem_straightWays_iff : way ∈ straightWays ↔
    (way.1 = -1 ∧ way.2 = 0) ∨ (way.1 = 1 ∧ way.2 = 0) ∨
      (way.1 = 0 ∧ way.2 = -1) ∨ (way.1 = 0 ∧ way.2 = 1) := by
  obtain ⟨rows, cols⟩ := way
  simp [straightWays]

theorem Ahead.ne (ahead : here.Ahead target way) (straight : way ∈ straightWays) :
    here ≠ target := by
  intro same
  rw [mem_straightWays_iff] at straight
  rw [Ahead, same, Int.sub_self, Int.sub_self, Int.sign_zero] at ahead
  omega

theorem Ahead.inLine (ahead : here.Ahead target way) (straight : way ∈ straightWays) :
    here.InLine target := by
  obtain ⟨rows, cols⟩ := ahead
  rw [mem_straightWays_iff, ← rows, ← cols] at straight
  simp only [Int.sign_eq_zero_iff_zero] at straight
  rw [InLine, row_eq_iff, col_eq_iff]
  omega

/-- Squares in line lie from one another in one of the four ways. -/
theorem InLine.exists_ahead (inLine : here.InLine target) (apart : here ≠ target) :
    ∃ way ∈ straightWays, here.Ahead target way := by
  refine ⟨((target.rank - here.rank).sign, (target.file - here.file).sign), ?_, rfl, rfl⟩
  rw [mem_straightWays_iff]
  have cases := inLine.cases apart
  omega

/-- One step leads to a square in this direction. -/
theorem ahead_of_shift? (straight : way ∈ straightWays)
    (stepped : here.shift? way.1 way.2 = some next) : here.Ahead next way := by
  rw [shift?_eq_some_iff] at stepped
  rw [mem_straightWays_iff] at straight
  have rows : next.rank - here.rank = way.1 := by omega
  have cols : next.file - here.file = way.2 := by omega
  rw [Ahead, rows, cols]
  rcases straight with ⟨first, second⟩ | ⟨first, second⟩ | ⟨first, second⟩ | ⟨first, second⟩ <;>
    rw [first, second] <;> decide

/-- A step onward keeps the direction. -/
theorem sign_add_sign (difference : Int) :
    (difference + difference.sign).sign = difference.sign := by
  rcases Int.lt_trichotomy difference 0 with negative | zero | positive
  · rw [Int.sign_eq_neg_one_of_neg negative]
    exact Int.sign_eq_neg_one_of_neg (by omega)
  · rw [zero]
    rfl
  · rw [Int.sign_eq_one_of_pos positive]
    exact Int.sign_eq_one_of_pos (by omega)

/-- What lies ahead after a step lay ahead before it. -/
theorem Ahead.of_shift? (ahead : next.Ahead target way)
    (stepped : here.shift? way.1 way.2 = some next) : here.Ahead target way := by
  rw [shift?_eq_some_iff] at stepped
  obtain ⟨rows, cols⟩ := ahead
  have rowSplit : target.rank - here.rank = (target.rank - next.rank) + way.1 := by omega
  have colSplit : target.file - here.file = (target.file - next.file) + way.2 := by omega
  refine ⟨?_, ?_⟩
  · rw [rowSplit, ← rows, sign_add_sign]
  · rw [colSplit, ← cols, sign_add_sign]

/-- A walk that is long enough meets every square ahead. -/
theorem Ahead.exists_split (ahead : here.Ahead target way) (straight : way ∈ straightWays)
    (near : here.distance target ≤ steps) :
    ∃ before after, walkOut way steps here = before ++ target :: after := by
  induction steps generalizing here with
  | zero =>
    have apart := (distance_pos_iff here target).mpr (ahead.ne straight)
    omega
  | succ steps ih =>
    have inLine := ahead.inLine straight
    have apart := ahead.ne straight
    obtain ⟨next, stepped⟩ := inLine.exists_step apart
    obtain ⟨-, closer, onward, -⟩ := inLine.step apart stepped
    rw [ahead.1, ahead.2] at stepped onward
    simp only [walkOut, stepped]
    by_cases arrived : next = target
    · exact ⟨[], walkOut way steps next, by rw [arrived, List.nil_append]⟩
    · have further : next.Ahead target way := onward.resolve_left arrived
      obtain ⟨before, after, split⟩ := ih further (by omega)
      exact ⟨next :: before, after, by rw [split, List.cons_append]⟩

end Square

namespace Board

open Square

variable (board : Board) {here next target : Square} {way : Int × Int} {steps n : Nat}
  {before after : List Square}

/-- A square met on a walk lies in the direction of the walk, and the occupied squares met before it
are those between. -/
theorem ahead_of_walkOut (straight : way ∈ straightWays)
    (split : walkOut way steps here = before ++ target :: after) :
    here.Ahead target way ∧ board.countBetween here target = before.countP board.isOccupied := by
  induction before generalizing here steps with
  | nil =>
    cases steps with
    | zero => simp [walkOut] at split
    | succ steps =>
      rw [walkOut] at split
      cases stepped : here.shift? way.1 way.2 with
      | none => simp [stepped] at split
      | some next =>
        simp only [stepped, List.nil_append, List.cons.injEq] at split
        rw [split.1] at stepped
        have ahead := ahead_of_shift? straight stepped
        refine ⟨ahead, ?_⟩
        rw [← ahead.1, ← ahead.2] at stepped
        rw [board.countBetween_step (ahead.inLine straight) (ahead.ne straight) stepped, if_pos rfl]
        rfl
  | cons first before ih =>
    cases steps with
    | zero => simp [walkOut] at split
    | succ steps =>
      rw [walkOut] at split
      cases stepped : here.shift? way.1 way.2 with
      | none => simp [stepped] at split
      | some next =>
        simp only [stepped, List.cons_append, List.cons.injEq] at split
        obtain ⟨further, counted⟩ := ih split.2
        have ahead := further.of_shift? stepped
        refine ⟨ahead, ?_⟩
        rw [← ahead.1, ← ahead.2] at stepped
        rw [board.countBetween_step (ahead.inLine straight) (ahead.ne straight) stepped,
          if_neg (further.ne straight), counted, List.countP_cons, split.1, Nat.add_comm]

/-- So many pieces stand between two squares exactly when one of the four rays from the first leads
to the second over so many. -/
theorem between?_eq_some_iff :
    board.between? here target = some n ↔ ∃ way ∈ straightWays, ∃ before after,
      here.ray way = before ++ target :: after ∧ before.countP board.isOccupied = n := by
  rw [between?_eq]
  constructor
  · intro counted
    by_cases aligned : here ≠ target ∧ here.InLine target
    · rw [if_pos aligned, Option.some.injEq] at counted
      obtain ⟨way, straight, ahead⟩ := aligned.2.exists_ahead aligned.1
      obtain ⟨before, after, split⟩ := ahead.exists_split straight (distance_le_nine aligned.2)
      refine ⟨way, straight, before, after, split, ?_⟩
      rw [← (board.ahead_of_walkOut straight split).2, counted]
    · rw [if_neg aligned] at counted
      cases counted
  · rintro ⟨way, straight, before, after, split, counted⟩
    obtain ⟨ahead, between⟩ := board.ahead_of_walkOut straight split
    rw [if_pos ⟨ahead.ne straight, ahead.inLine straight⟩, between, counted]

end Board

end Xiangqi
