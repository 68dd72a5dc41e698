import Xiangqi.Board.Setup
import Xiangqi.Proofs.Board.Line

/-!
# The walk from one square to another

`Board.walk` stops after a bounded number of visits. Here the same walk goes on for as many rounds
as it takes, with the tally it carries along: `Board.Walks`. A round keeps the walk on its line and
its tally right (`Board.Underway.round`) and brings it one step closer, so the walk arrives whatever
stands on the board, never leaves it, and what it has tallied is what `Board.between?` answers.
-/

namespace Xiangqi

namespace Square

variable {a b mid sq : Square}

/-- The step from one square in the direction of another, as changes of row and column. -/
def toward (a b : Square) : Int × Int :=
  ((b.rank - a.rank).sign, (b.file - a.file).sign)

/-! ## A square between two others -/

theorem Between.ne (between : Between a b mid) : a ≠ b := by
  rintro rfl
  exact not_between_same between

theorem Between.inLine (between : Between a b mid) : a.InLine b := by
  rcases between with ⟨first, second, -⟩ | ⟨first, second, -⟩
  · exact .inl (first.symm.trans second)
  · exact .inr (first.symm.trans second)

theorem Between.ne_left (between : Between a b mid) : a ≠ mid := by
  rintro rfl
  exact not_between_left between

theorem Between.inLine_left (between : Between a b mid) : a.InLine mid := by
  rcases between with ⟨first, -, -⟩ | ⟨first, -, -⟩
  · exact .inl first.symm
  · exact .inr first.symm

theorem Between.ne_right (between : Between a b mid) : mid ≠ b :=
  (between_comm.mp between).ne_left.symm

theorem Between.inLine_right (between : Between a b mid) : mid.InLine b :=
  inLine_comm.mp (between_comm.mp between).inLine_left

/-- From a square in between, the goal lies in the direction it had at first. -/
theorem Between.toward_eq (between : Between a b mid) : mid.toward b = a.toward b := by
  have atFirst := between.inLine.cases between.ne
  have now := between.inLine_right.cases between.ne_right
  simp only [Between, row_eq_iff, col_eq_iff] at between
  rw [toward, toward, Prod.mk.injEq]
  omega

/-- On a common row what lies between is a matter of columns alone. -/
theorem between_iff_of_row_eq (same : a.row = b.row) :
    Between a b sq ↔ sq.row = a.row ∧
      (a.file < sq.file ∧ sq.file < b.file ∨ b.file < sq.file ∧ sq.file < a.file) := by
  rw [row_eq_iff] at same
  rw [Between, row_eq_iff, row_eq_iff]
  omega

theorem between_iff_of_col_eq (same : a.col = b.col) :
    Between a b sq ↔ sq.col = a.col ∧
      (a.rank < sq.rank ∧ sq.rank < b.rank ∨ b.rank < sq.rank ∧ sq.rank < a.rank) := by
  rw [col_eq_iff] at same
  rw [Between, col_eq_iff, col_eq_iff]
  omega

/-- A square in between parts the others: they lie before it or behind it. -/
theorem Between.iff_split (between : Between a b mid) :
    Between a b sq ↔ sq = mid ∨ Between a mid sq ∨ Between mid b sq := by
  rcases between with ⟨first, second, inside⟩ | ⟨first, second, inside⟩
  · rw [between_iff_of_row_eq (first.symm.trans second), between_iff_of_row_eq first.symm,
      between_iff_of_row_eq second, eq_iff, ← row_eq_iff, first]
    omega
  · rw [between_iff_of_col_eq (first.symm.trans second), between_iff_of_col_eq first.symm,
      between_iff_of_col_eq second, eq_iff, ← col_eq_iff, first]
    omega

theorem Between.not_both (between : Between a b mid) (before : Between a mid sq) :
    ¬ Between mid b sq := by
  rcases between with ⟨first, second, inside⟩ | ⟨first, second, inside⟩
  · rw [between_iff_of_row_eq first.symm] at before
    rw [between_iff_of_row_eq second]
    omega
  · rw [between_iff_of_col_eq first.symm] at before
    rw [between_iff_of_col_eq second]
    omega

/-- What is passed on the way to a square stays between where one came from and that square. -/
theorem Between.passed (between : Between a b mid) (further : Between mid b sq) :
    Between a sq mid := by
  rcases between with ⟨first, second, inside⟩ | ⟨first, second, inside⟩
  · rw [between_iff_of_row_eq second] at further
    exact .inl ⟨first, further.1.symm, by omega⟩
  · rw [between_iff_of_col_eq second] at further
    exact .inr ⟨first, further.1.symm, by omega⟩

/-- A step in the direction of a square in line leads to a neighbour. -/
theorem InLine.distance_step (inLine : a.InLine b) (apart : a ≠ b)
    (stepped : a.shift? (a.toward b).1 (a.toward b).2 = some mid) : a.distance mid = 1 := by
  have way := inLine.cases apart
  rw [toward, shift?_eq_some_iff] at stepped
  unfold distance
  omega

/-- Such a step leads to the square aimed at or to one in between. -/
theorem InLine.step_onWay (inLine : a.InLine b) (apart : a ≠ b)
    (stepped : a.shift? (a.toward b).1 (a.toward b).2 = some mid) : mid = b ∨ Between a b mid := by
  obtain ⟨-, -, -, between_iff⟩ := inLine.step apart stepped
  rw [between_iff]
  tauto

end Square

namespace Board

open Square

variable (board : Board) {a b mid : Square}

/-! ## The count in parts -/

/-- A square in between parts the count: what stands before it, what stands behind it, and itself. -/
theorem countBetween_split (between : Between a b mid) :
    board.countBetween a b = board.countBetween a mid + board.countBetween mid b +
      if board.isOccupied mid then 1 else 0 := by
  have itself : board.countBetween a b = (if board.isOccupied mid then 1 else 0) +
      Square.all.countP fun sq =>
        board.isOccupied sq && decide (Between a mid sq ∨ Between mid b sq) := by
    have met : (board.isOccupied mid && decide (Between a b mid)) = board.isOccupied mid := by
      simp [between]
    rw [countBetween, ← met]
    apply countP_all_eq_of_agree
    · simp [not_between_left, not_between_right]
    · intro sq elsewhere
      simp [between.iff_split, elsewhere]
  -- Apart from `mid` a square lies before it or behind it and never both, so it is counted once.
  have parted : (Square.all.countP fun sq =>
      board.isOccupied sq && decide (Between a mid sq ∨ Between mid b sq)) =
        board.countBetween a mid + board.countBetween mid b := by
    rw [List.countP_eq_countP_filter_add _ _ fun sq => decide (Between a mid sq),
      List.countP_filter, List.countP_filter, countBetween, countBetween]
    congr 1
    · apply List.countP_congr
      intro sq _
      simp only [Bool.and_eq_true, decide_eq_true_eq]
      tauto
    · apply List.countP_congr
      intro sq _
      have once : Between a mid sq → ¬ Between mid b sq := between.not_both
      simp only [Bool.and_eq_true, Bool.not_eq_true', decide_eq_true_eq, decide_eq_false_iff_not]
      tauto
  rw [itself, parted, Nat.add_comm]

theorem countBetween_of_distance_eq_one (near : a.distance b = 1) : board.countBetween a b = 0 := by
  rw [countBetween, List.countP_eq_zero]
  intro sq _
  simp [not_between_of_distance_eq_one near]

/-- A square in between has a count from either end, and the two make up the whole. -/
theorem between?_split (between : Between a b mid) :
    ∃ before behind, board.between? a mid = some before ∧ board.between? mid b = some behind ∧
      board.between? a b = some (before + behind + if board.isOccupied mid then 1 else 0) := by
  refine ⟨board.countBetween a mid, board.countBetween mid b, ?_, ?_, ?_⟩
  · rw [between?_eq, if_pos ⟨between.ne_left, between.inLine_left⟩]
  · rw [between?_eq, if_pos ⟨between.ne_right, between.inLine_right⟩]
  · rw [between?_eq, if_pos ⟨between.ne, between.inLine⟩, board.countBetween_split between]

/-! ## Rounds -/

/-- Where a walk has come to, and how many pieces it has passed on its way there. -/
structure Stage where
  here : Square
  passed : Nat

/-- One round of a walk: the square it stands on counts if it is occupied, and a step in the given
way leads on, unless it leaves the board. -/
def round? (way : Int × Int) (stage : Stage) : Option Stage :=
  (stage.here.shift? way.1 way.2).map fun next =>
    ⟨next, stage.passed + if board.isOccupied stage.here then 1 else 0⟩

/-- A walk and the number of its rounds, which nothing bounds. It goes on until it stands on the goal,
and its outcome is then the number of pieces it has passed; a round that leads off the board ends it
without such a number. A walk that went on forever would have no outcome at all. -/
inductive Walks (goal : Square) (way : Int × Int) : Stage → Nat → Option Nat → Prop
  | arrives {passed : Nat} : Walks goal way ⟨goal, passed⟩ 0 (some passed)
  | strays {stage : Stage} (away : stage.here ≠ goal) (off : board.round? way stage = none) :
      Walks goal way stage 0 none
  | goesOn {stage next : Stage} {rounds : Nat} {outcome : Option Nat} (away : stage.here ≠ goal)
      (leads : board.round? way stage = some next) (rest : Walks goal way next rounds outcome) :
      Walks goal way stage (rounds + 1) outcome

/-- What holds of a walk from `a` to `b` after every round: it stands on its way or has arrived, and
it has passed what stands between its start and where it is. -/
structure Underway (a b : Square) (stage : Stage) : Prop where
  onWay : stage.here = b ∨ Between a b stage.here
  counted : stage.passed = board.countBetween a stage.here

variable {board} {goal : Square} {way : Int × Int} {stage : Stage} {rounds rounds' : Nat}
  {outcome outcome' : Option Nat}

/-- A walk ends in one way only. -/
theorem Walks.unique (first : board.Walks goal way stage rounds outcome)
    (second : board.Walks goal way stage rounds' outcome') :
    rounds = rounds' ∧ outcome = outcome' := by
  induction first generalizing rounds' with
  | arrives =>
    cases second with
    | arrives => exact ⟨rfl, rfl⟩
    | strays away => exact absurd rfl away
    | goesOn away => exact absurd rfl away
  | strays away off =>
    cases second with
    | arrives => exact absurd rfl away
    | strays => exact ⟨rfl, rfl⟩
    | goesOn _ leads => simp [off] at leads
  | goesOn away leads rest ih =>
    cases second with
    | arrives => exact absurd rfl away
    | strays _ off => simp [leads] at off
    | goesOn _ leads' rest' =>
      rw [leads, Option.some.injEq] at leads'
      subst leads'
      obtain ⟨sameRounds, sameOutcome⟩ := ih rest'
      exact ⟨congrArg (· + 1) sameRounds, sameOutcome⟩

/-- The first step leads onto the way, with nothing passed yet. -/
theorem exists_underway (inLine : a.InLine b) (apart : a ≠ b) :
    ∃ first, a.shift? (a.toward b).1 (a.toward b).2 = some first ∧
      board.Underway a b ⟨first, 0⟩ ∧ a.distance b = first.distance b + 1 := by
  obtain ⟨first, stepped⟩ := inLine.exists_step apart
  obtain ⟨-, closer, -⟩ := inLine.step apart stepped
  refine ⟨first, stepped, ⟨inLine.step_onWay apart stepped, ?_⟩, closer⟩
  rw [board.countBetween_of_distance_eq_one (inLine.distance_step apart stepped)]

/-- A round before the goal stays on the board and on the way, counts the square it leaves behind, and
leads one step closer. -/
theorem Underway.round (underway : board.Underway a b stage) (away : stage.here ≠ b) :
    ∃ next, board.round? (a.toward b) stage = some next ∧ board.Underway a b next ∧
      stage.here.distance b = next.here.distance b + 1 := by
  have between : Between a b stage.here := underway.onWay.resolve_left away
  have inLine := between.inLine_right
  obtain ⟨next, stepped⟩ := inLine.exists_step away
  obtain ⟨-, closer, -⟩ := inLine.step away stepped
  have near : stage.here.distance next = 1 := inLine.distance_step away stepped
  have onWay : next = b ∨ Between stage.here b next := inLine.step_onWay away stepped
  -- The square left behind now lies between the start and the next one, so the count up to there
  -- parts at it, and nothing else has come in between.
  have left : Between a next stage.here := by
    rcases onWay with rfl | further
    · exact between
    · exact between.passed further
  refine ⟨⟨next, stage.passed + if board.isOccupied stage.here then 1 else 0⟩, ?_, ⟨?_, ?_⟩, closer⟩
  · rw [round?, ← between.toward_eq, toward, stepped]
    rfl
  · exact onWay.imp_right fun further => between.iff_split.mpr (.inr (.inr further))
  · rw [board.countBetween_split left, board.countBetween_of_distance_eq_one near, underway.counted,
      Nat.add_zero]

/-- By induction on the steps that are left, a walk on its way arrives with the whole count. -/
theorem Underway.walks (underway : board.Underway a b stage) :
    board.Walks b (a.toward b) stage (stage.here.distance b) (some (board.countBetween a b)) := by
  induction left : stage.here.distance b generalizing stage with
  | zero =>
    have arrived : stage.here = b := by
      by_contra away
      have ahead := (distance_pos_iff stage.here b).mpr away
      omega
    obtain ⟨here, passed⟩ := stage
    have counted := underway.counted
    simp only at arrived counted
    rw [arrived] at counted ⊢
    rw [counted]
    exact .arrives
  | succ steps ih =>
    have away : stage.here ≠ b := (distance_pos_iff stage.here b).mp (by omega)
    obtain ⟨next, leads, onward, closer⟩ := underway.round away
    exact .goesOn away leads (ih onward (by omega))

/-- The count of `between?` is exact. Squares that are equal or not in line have none. For others it
is the number of occupied squares strictly between them: the walk from the first to the second, with no
bound on its rounds, ends after as many rounds as there are squares in between, on the second square
and not off the board, and has passed so many pieces. What stands on the two squares makes no
difference, nor does their order, and a square in between parts the count. -/
theorem walk_counts_exactly (board : Board) (a b : Square) :
    (board.between? a b = none ↔ a = b ∨ (a.row ≠ b.row ∧ a.col ≠ b.col)) ∧
    (a ≠ b → a.InLine b →
      board.between? a b =
        some (Square.all.countP fun sq => board.isOccupied sq && Between a b sq) ∧
      ∃ first, a.shift? (a.toward b).1 (a.toward b).2 = some first ∧
        ∀ rounds outcome, board.Walks b (a.toward b) ⟨first, 0⟩ rounds outcome ↔
          rounds + 1 = a.distance b ∧ outcome = board.between? a b) ∧
    (∀ other : Board, (∀ sq, sq ≠ a → sq ≠ b → other.isOccupied sq = board.isOccupied sq) →
      other.between? a b = board.between? a b) ∧
    board.between? a b = board.between? b a ∧
    ∀ mid, Between a b mid → ∃ before behind,
      board.between? a mid = some before ∧ board.between? mid b = some behind ∧
      board.between? a b = some (before + behind + if board.isOccupied mid then 1 else 0) := by
  refine ⟨board.between?_eq_none_iff, fun apart inLine => ?_, fun other agree => ?_,
    board.between?_comm a b, fun mid => board.between?_split⟩
  · have counted : board.between? a b = some (board.countBetween a b) := by
      rw [between?_eq, if_pos ⟨apart, inLine⟩]
    obtain ⟨first, stepped, underway, closer⟩ := board.exists_underway inLine apart
    refine ⟨counted, first, stepped, fun rounds outcome => ?_⟩
    rw [counted, closer, Nat.add_right_cancel_iff]
    constructor
    · intro walks
      exact walks.unique underway.walks
    · rintro ⟨rfl, rfl⟩
      exact underway.walks
  · apply between?_congr
    intro sq between
    apply agree
    · rintro rfl
      exact not_between_left between
    · rintro rfl
      exact not_between_right between

/-- Two cannons stand between the horses of one file. The walk from horse to horse takes eight rounds and
cannot end otherwise, and the nearer cannon parts the count. -/
theorem walk_counts_exactly_over_cannons :
    let board := Board.opening {}
    (⟨9, 1⟩ : Square) ≠ ⟨0, 1⟩ ∧ InLine ⟨9, 1⟩ ⟨0, 1⟩ ∧ Between ⟨9, 1⟩ ⟨0, 1⟩ ⟨7, 1⟩ ∧
      board.between? ⟨9, 1⟩ ⟨0, 1⟩ = some 2 ∧ board.between? ⟨0, 1⟩ ⟨9, 1⟩ = some 2 ∧
      board.Walks ⟨0, 1⟩ (-1, 0) ⟨⟨8, 1⟩, 0⟩ 8 (some 2) ∧
      (∀ rounds, ¬ board.Walks ⟨0, 1⟩ (-1, 0) ⟨⟨8, 1⟩, 0⟩ rounds none) ∧
      ∃ before behind, board.between? ⟨9, 1⟩ ⟨7, 1⟩ = some before ∧
        board.between? ⟨7, 1⟩ ⟨0, 1⟩ = some behind ∧ before + behind + 1 = 2 := by
  intro board
  have apart : (⟨9, 1⟩ : Square) ≠ ⟨0, 1⟩ := by decide
  have inLine : InLine ⟨9, 1⟩ ⟨0, 1⟩ := by decide
  have between : Between ⟨9, 1⟩ ⟨0, 1⟩ ⟨7, 1⟩ := by decide
  obtain ⟨-, counts, -, comm, parts⟩ := walk_counts_exactly board ⟨9, 1⟩ ⟨0, 1⟩
  obtain ⟨counted, first, stepped, ends⟩ := counts apart inLine
  have two : board.between? ⟨9, 1⟩ ⟨0, 1⟩ = some 2 := by
    rw [counted]
    decide +kernel
  have start : first = ⟨8, 1⟩ := by
    have firstStep : (⟨9, 1⟩ : Square).shift? (-1) 0 = some ⟨8, 1⟩ := by decide
    exact Option.some.inj (stepped.symm.trans firstStep)
  rw [two, start] at ends
  refine ⟨apart, inLine, between, two, comm ▸ two, (ends 8 (some 2)).mpr ⟨by decide, rfl⟩, ?_, ?_⟩
  · intro rounds strays
    cases ((ends rounds none).mp strays).2
  · obtain ⟨before, behind, first, second, whole⟩ := parts _ between
    have cannon : board.isOccupied ⟨7, 1⟩ = true := by decide +kernel
    rw [two, cannon, if_pos rfl, Option.some.injEq] at whole
    exact ⟨before, behind, first, second, whole.symm⟩

end Board

end Xiangqi
