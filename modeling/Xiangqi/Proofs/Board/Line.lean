import Mathlib.Data.List.Nodup
import Xiangqi.Board.Line

/-!
# What the walk along a line counts

`Board.between?` walks from one square toward another. Here the walk is tied to a count that does
not move: the number of occupied squares strictly between the two. A step toward the goal takes the
next square out of what lies between (`Square.InLine.step`), so by induction the walk has counted
just these squares when it arrives, and it always arrives.
-/

namespace Xiangqi

namespace Square

variable {a b next sq : Square}

/-- The squares share a row or a column. -/
def InLine (a b : Square) : Prop :=
  a.row = b.row ∨ a.col = b.col

/-- The square `sq` lies on the common row or column of `a` and `b`, strictly between them. -/
def Between (a b sq : Square) : Prop :=
  (sq.row = a.row ∧ sq.row = b.row ∧
    (a.file < sq.file ∧ sq.file < b.file ∨ b.file < sq.file ∧ sq.file < a.file)) ∨
  (sq.col = a.col ∧ sq.col = b.col ∧
    (a.rank < sq.rank ∧ sq.rank < b.rank ∨ b.rank < sq.rank ∧ sq.rank < a.rank))

instance (a b : Square) : Decidable (InLine a b) :=
  inferInstanceAs (Decidable (_ ∨ _))

instance (a b sq : Square) : Decidable (Between a b sq) :=
  inferInstanceAs (Decidable (_ ∨ _))

/-- The number of steps between two squares along rows and columns. -/
def distance (a b : Square) : Nat :=
  (b.rank - a.rank).natAbs + (b.file - a.file).natAbs

theorem row_eq_iff : a.row = b.row ↔ a.rank = b.rank := by
  rw [rank, rank, Int.natCast_inj, Fin.ext_iff]

theorem col_eq_iff : a.col = b.col ↔ a.file = b.file := by
  rw [file, file, Int.natCast_inj, Fin.ext_iff]

theorem eq_iff : a = b ↔ a.rank = b.rank ∧ a.file = b.file := by
  rw [← row_eq_iff, ← col_eq_iff]
  constructor
  · rintro rfl
    exact ⟨rfl, rfl⟩
  · rintro ⟨rows, cols⟩
    exact ext rows cols

theorem rank_bounds (sq : Square) : 0 ≤ sq.rank ∧ sq.rank < 10 := by
  have row := sq.row.isLt
  rw [rank]
  omega

theorem file_bounds (sq : Square) : 0 ≤ sq.file ∧ sq.file < 9 := by
  have col := sq.col.isLt
  rw [file]
  omega

theorem shift?_eq_some_iff {rows cols : Int} :
    a.shift? rows cols = some b ↔ b.rank = a.rank + rows ∧ b.file = a.file + cols := by
  rw [shift?, ofCoords?_eq_some_iff, eq_comm (b := b.rank), eq_comm (b := b.file)]

theorem between_comm : Between a b sq ↔ Between b a sq := by
  unfold Between
  constructor
  · rintro (⟨first, second, inside⟩ | ⟨first, second, inside⟩)
    · exact .inl ⟨second, first, inside.symm⟩
    · exact .inr ⟨second, first, inside.symm⟩
  · rintro (⟨first, second, inside⟩ | ⟨first, second, inside⟩)
    · exact .inl ⟨second, first, inside.symm⟩
    · exact .inr ⟨second, first, inside.symm⟩

theorem inLine_comm : a.InLine b ↔ b.InLine a := by
  rw [InLine, InLine, eq_comm, eq_comm (a := a.col)]

theorem not_between_left : ¬ Between a b a := by
  rintro (⟨-, -, inside⟩ | ⟨-, -, inside⟩) <;> omega

theorem not_between_right : ¬ Between a b b := by
  rw [between_comm]
  exact not_between_left

theorem not_between_same : ¬ Between a a sq := by
  rintro (⟨-, -, inside⟩ | ⟨-, -, inside⟩) <;> omega

theorem not_between_of_distance_eq_one (near : a.distance b = 1) : ¬ Between a b sq := by
  unfold distance at near
  rintro (⟨-, -, inside⟩ | ⟨-, -, inside⟩) <;> omega

theorem distance_pos_iff (a b : Square) : 0 < a.distance b ↔ a ≠ b := by
  rw [Ne, eq_iff, distance]
  omega

theorem distance_le_nine (inLine : a.InLine b) : a.distance b ≤ 9 := by
  have rankA := a.rank_bounds
  have rankB := b.rank_bounds
  have fileA := a.file_bounds
  have fileB := b.file_bounds
  rw [InLine, row_eq_iff, col_eq_iff] at inLine
  unfold distance
  omega

/-- The four ways in which one square lies from another on a line, with the signs of the way. -/
theorem InLine.cases (inLine : a.InLine b) (apart : a ≠ b) :
    ((b.rank - a.rank).sign = 0 ∧ (b.file - a.file).sign = 1 ∧ a.rank = b.rank ∧ a.file < b.file) ∨
    ((b.rank - a.rank).sign = 0 ∧ (b.file - a.file).sign = -1 ∧ a.rank = b.rank ∧ b.file < a.file) ∨
    ((b.rank - a.rank).sign = 1 ∧ (b.file - a.file).sign = 0 ∧ a.rank < b.rank ∧ a.file = b.file) ∨
    ((b.rank - a.rank).sign = -1 ∧ (b.file - a.file).sign = 0 ∧ b.rank < a.rank ∧
      a.file = b.file) := by
  rw [Ne, eq_iff] at apart
  rw [InLine, row_eq_iff, col_eq_iff] at inLine
  simp only [Int.sign_eq_zero_iff_zero, Int.sign_eq_one_iff_pos, Int.sign_eq_neg_one_iff_neg]
  omega

/-- A step from `a` toward `b` stays on the board. -/
theorem InLine.exists_step (inLine : a.InLine b) (apart : a ≠ b) :
    ∃ next, a.shift? (b.rank - a.rank).sign (b.file - a.file).sign = some next := by
  have rankA := a.rank_bounds
  have fileA := a.file_bounds
  have rankB := b.rank_bounds
  have fileB := b.file_bounds
  have way := inLine.cases apart
  rw [← Option.isSome_iff_exists, Option.isSome_iff_ne_none, shift?, Ne, ofCoords?_eq_none_iff]
  omega

/-- A step from `a` toward `b` stays on the line and keeps its direction until it arrives. What lay
between the two is the square it leads to, unless that is `b`, and what still lies ahead. -/
theorem InLine.step (inLine : a.InLine b) (apart : a ≠ b)
    (stepped : a.shift? (b.rank - a.rank).sign (b.file - a.file).sign = some next) :
    next.InLine b ∧ a.distance b = next.distance b + 1 ∧
      (next = b ∨ (b.rank - next.rank).sign = (b.rank - a.rank).sign ∧
        (b.file - next.file).sign = (b.file - a.file).sign) ∧
      ∀ sq, Between a b sq ↔ (sq = next ∧ next ≠ b) ∨ Between next b sq := by
  rw [shift?_eq_some_iff] at stepped
  simp only [InLine, row_eq_iff, col_eq_iff, distance, Between, Ne, eq_iff]
  rcases inLine.cases apart with ⟨rowSign, colSign, way⟩ | ⟨rowSign, colSign, way⟩ |
    ⟨rowSign, colSign, way⟩ | ⟨rowSign, colSign, way⟩
  all_goals
    rw [rowSign, colSign] at stepped ⊢
    simp only [Int.sign_eq_zero_iff_zero, Int.sign_eq_one_iff_pos, Int.sign_eq_neg_one_iff_neg]
    refine ⟨by omega, by omega, by omega, fun sq => ?_⟩
    clear rowSign colSign
    omega

/-- Two tests that differ at most on one square count alike, apart from that square. -/
theorem countP_all_eq_of_agree {p q : Square → Bool} (here : Square) (fresh : q here = false)
    (agree : ∀ sq, sq ≠ here → p sq = q sq) :
    all.countP p = (if p here then 1 else 0) + all.countP q := by
  have split := List.perm_cons_erase (mem_all here)
  have others : (all.erase here).countP p = (all.erase here).countP q := by
    apply List.countP_congr
    intro sq member
    rw [agree sq ((nodup_all.mem_erase_iff).mp member).1]
  rw [split.countP_eq p, split.countP_eq q, List.countP_cons, List.countP_cons, others, fresh,
    Nat.add_comm]
  rfl

end Square

namespace Board

variable (board : Board) {a b next : Square}

/-- The number of occupied squares strictly between two squares of a row or a column. -/
def countBetween (a b : Square) : Nat :=
  Square.all.countP fun sq => board.isOccupied sq && Square.Between a b sq

/-- What lies between two squares is the square next to the first one and what lies beyond that. -/
theorem countBetween_step (inLine : a.InLine b) (apart : a ≠ b)
    (stepped : a.shift? (b.rank - a.rank).sign (b.file - a.file).sign = some next) :
    board.countBetween a b =
      if next = b then 0
      else (if board.isOccupied next then 1 else 0) + board.countBetween next b := by
  obtain ⟨-, -, -, between_iff⟩ := inLine.step apart stepped
  unfold countBetween
  by_cases arrived : next = b
  · rw [if_pos arrived, List.countP_eq_zero]
    intro sq _
    simp [between_iff, arrived, Square.not_between_same]
  · have met : (board.isOccupied next && decide (a.Between b next)) = board.isOccupied next := by
      simp [between_iff, arrived]
    rw [if_neg arrived, ← met]
    apply Square.countP_all_eq_of_agree
    · simp [Square.not_between_left]
    · intro sq elsewhere
      simp [between_iff, elsewhere]

/-- The walk toward the goal arrives, and has counted the occupied squares before it. -/
theorem walk_eq {goal here : Square} {rows cols : Int} {visits : Nat} (inLine : here.InLine goal)
    (heading : here = goal ∨
      (goal.rank - here.rank).sign = rows ∧ (goal.file - here.file).sign = cols)
    (near : here.distance goal < visits) :
    board.walk goal rows cols visits here =
      some (if here = goal then 0
        else (if board.isOccupied here then 1 else 0) + board.countBetween here goal) := by
  induction visits generalizing here with
  | zero => exact absurd near (Nat.not_lt_zero _)
  | succ visits ih =>
    rw [walk]
    by_cases arrived : here = goal
    · rw [if_pos arrived, if_pos arrived]
    · obtain ⟨rfl, rfl⟩ := heading.resolve_left arrived
      obtain ⟨next, stepped⟩ := inLine.exists_step arrived
      obtain ⟨stays, closer, onward, -⟩ := inLine.step arrived stepped
      have rest := ih stays onward (by omega)
      rw [if_neg arrived, if_neg arrived, stepped, board.countBetween_step inLine arrived stepped]
      simp only [Option.bind_eq_bind, Option.bind_some, rest]
      rw [Nat.add_comm]
      rfl

/-- Between two squares of a row or a column the walk counts the occupied squares; for other squares
there is no count. -/
theorem between?_eq (a b : Square) :
    board.between? a b = if a ≠ b ∧ a.InLine b then some (board.countBetween a b) else none := by
  unfold between?
  by_cases apart : a = b
  · rw [if_pos (.inl apart), if_neg fun both => both.1 apart]
  · by_cases inLine : a.InLine b
    · have aligned : ¬ (a = b ∨ a.row ≠ b.row ∧ a.col ≠ b.col) := by
        rw [Square.InLine] at inLine
        tauto
      obtain ⟨first, stepped⟩ := inLine.exists_step apart
      obtain ⟨stays, closer, onward, -⟩ := inLine.step apart stepped
      have near : first.distance b < 9 := by
        have whole := Square.distance_le_nine inLine
        omega
      rw [if_neg aligned, if_pos ⟨apart, inLine⟩]
      simp only [Option.bind_eq_bind, stepped, Option.bind_some]
      rw [board.walk_eq stays onward near, board.countBetween_step inLine apart stepped]
    · have askew : a = b ∨ a.row ≠ b.row ∧ a.col ≠ b.col := .inr (not_or.mp inLine)
      rw [if_pos askew, if_neg fun both => inLine both.2]

theorem countBetween_comm (a b : Square) : board.countBetween a b = board.countBetween b a := by
  unfold countBetween
  apply List.countP_congr
  intro sq _
  simp only [Square.between_comm (a := a)]

/-- The count does not depend on the end from which one walks. -/
theorem between?_comm (a b : Square) : board.between? a b = board.between? b a := by
  have aligned : a ≠ b ∧ a.InLine b ↔ b ≠ a ∧ b.InLine a := and_congr ne_comm Square.inLine_comm
  rw [between?_eq, between?_eq, board.countBetween_comm]
  exact if_congr aligned rfl rfl

/-- Squares have no count exactly if they are equal or not in line. -/
theorem between?_eq_none_iff :
    board.between? a b = none ↔ a = b ∨ (a.row ≠ b.row ∧ a.col ≠ b.col) := by
  rw [between?_eq, ite_eq_right_iff, Square.InLine]
  simp only [reduceCtorEq, imp_false]
  tauto

/-- Only the squares in between matter for the count, not what stands on the two squares. -/
theorem between?_congr {other : Board}
    (agree : ∀ sq, Square.Between a b sq → other.isOccupied sq = board.isOccupied sq) :
    other.between? a b = board.between? a b := by
  have counted : other.countBetween a b = board.countBetween a b := by
    unfold countBetween
    apply List.countP_congr
    intro sq _
    by_cases between : Square.Between a b sq
    · rw [agree sq between]
    · simp [between]
  rw [between?_eq, between?_eq, counted]

/-- The line between two squares is open exactly if they share a row or a column and no square
strictly between them is occupied. -/
theorem between?_eq_some_zero_iff :
    board.between? a b = some 0 ↔
      a ≠ b ∧ a.InLine b ∧ ∀ sq, Square.Between a b sq → board.isOccupied sq = false := by
  rw [between?_eq, ← and_assoc]
  by_cases aligned : a ≠ b ∧ a.InLine b
  · rw [if_pos aligned, Option.some.injEq, countBetween, List.countP_eq_zero]
    refine ⟨fun unblocked => ⟨aligned, fun sq between => ?_⟩, fun ⟨_, free⟩ sq _ => ?_⟩
    · simpa [between] using unblocked sq (Square.mem_all sq)
    · by_cases between : Square.Between a b sq
      · simp [free sq between]
      · simp [between]
  · rw [if_neg aligned]
    simp [aligned]

end Board

end Xiangqi
