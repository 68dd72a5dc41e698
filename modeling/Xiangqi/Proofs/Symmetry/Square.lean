import Mathlib.Data.List.Nodup
import Xiangqi.Reach

/-!
# Symmetries of the board's squares

The board can be turned end for end, which exchanges the two sides, and it can be mirrored, which
exchanges left and right. A `Symmetry` chooses each of the two or leaves it out; it is its own
inverse. Distances between squares keep their size and change sign together with the direction they
are measured in, and palaces and banks go to the palaces and banks of the image side.
-/

namespace Xiangqi

/-- A symmetry of the board: `swap` exchanges the ends and the sides, `mirror` left and right. -/
structure Symmetry where
  swap : Bool
  mirror : Bool
deriving DecidableEq

namespace Symmetry

/-- Both at once: the board as the other player sees it. -/
def halfTurn : Symmetry := ⟨true, true⟩

def side (s : Symmetry) (side : Side) : Side :=
  if s.swap then side.opponent else side

def square (s : Symmetry) (sq : Square) : Square :=
  ⟨if s.swap then sq.row.rev else sq.row, if s.mirror then sq.col.rev else sq.col⟩

def rows (s : Symmetry) (rows : Int) : Int :=
  if s.swap then -rows else rows

def cols (s : Symmetry) (cols : Int) : Int :=
  if s.mirror then -cols else cols

variable (s : Symmetry)

/-- The half turn takes row `r` and column `c` to row `9 - r` and column `8 - c`. -/
theorem halfTurn_square (sq : Square) : halfTurn.square sq = ⟨sq.row.rev, sq.col.rev⟩ := rfl

@[simp] theorem halfTurn_side (side : Side) : halfTurn.side side = side.opponent := rfl

@[simp] theorem side_side (side : Side) : s.side (s.side side) = side := by
  unfold Symmetry.side
  cases s.swap <;> simp

@[simp] theorem square_square (sq : Square) : s.square (s.square sq) = sq := by
  unfold square
  cases s.swap <;> cases s.mirror <;> simp

@[simp] theorem side_eq_iff {a b : Side} : s.side a = s.side b ↔ a = b := by
  constructor
  · intro same
    rw [← s.side_side a, same, s.side_side]
  · intro same
    rw [same]

@[simp] theorem square_eq_iff {a b : Square} : s.square a = s.square b ↔ a = b := by
  constructor
  · intro same
    rw [← s.square_square a, same, s.square_square]
  · intro same
    rw [same]

theorem row_square_eq_iff {a b : Square} : (s.square a).row = (s.square b).row ↔ a.row = b.row := by
  unfold square
  cases s.swap <;> simp

theorem col_square_eq_iff {a b : Square} : (s.square a).col = (s.square b).col ↔ a.col = b.col := by
  unfold square
  cases s.mirror <;> simp

theorem side_opponent (side : Side) : s.side side.opponent = (s.side side).opponent := by
  unfold Symmetry.side
  cases s.swap <;> rfl

/-- The image of the list of all squares lists all squares in another order. -/
theorem map_all_perm : (Square.all.map s.square).Perm Square.all := by
  rw [List.perm_ext_iff_of_nodup (Square.nodup_all.map fun a b same => s.square_eq_iff.mp same)
    Square.nodup_all]
  intro sq
  have member : sq ∈ Square.all.map s.square :=
    List.mem_map.mpr ⟨s.square sq, Square.mem_all _, s.square_square sq⟩
  exact ⟨fun _ => Square.mem_all sq, fun _ => member⟩

theorem rank_square (sq : Square) :
    (s.square sq).rank = if s.swap then 9 - sq.rank else sq.rank := by
  unfold square Square.rank
  cases s.swap with
  | false => rfl
  | true =>
    have bound := sq.row.isLt
    simp only [if_true, Fin.val_rev]
    omega

theorem file_square (sq : Square) :
    (s.square sq).file = if s.mirror then 8 - sq.file else sq.file := by
  unfold square Square.file
  cases s.mirror with
  | false => rfl
  | true =>
    have bound := sq.col.isLt
    simp only [if_true, Fin.val_rev]
    omega

theorem rowsTo_square (a b : Square) :
    (s.square a).rowsTo (s.square b) = s.rows (a.rowsTo b) := by
  unfold Square.rowsTo rows
  rw [rank_square, rank_square]
  cases s.swap with
  | false => rfl
  | true =>
    simp only [if_true]
    omega

theorem colsTo_square (a b : Square) :
    (s.square a).colsTo (s.square b) = s.cols (a.colsTo b) := by
  unfold Square.colsTo cols
  rw [file_square, file_square]
  cases s.mirror with
  | false => rfl
  | true =>
    simp only [if_true]
    omega

@[simp] theorem natAbs_rows (n : Int) : (s.rows n).natAbs = n.natAbs := by
  unfold rows
  cases s.swap <;> simp

@[simp] theorem natAbs_cols (n : Int) : (s.cols n).natAbs = n.natAbs := by
  unfold cols
  cases s.mirror <;> simp

theorem sign_rows (n : Int) : (s.rows n).sign = s.rows n.sign := by
  unfold rows
  cases s.swap <;> simp

theorem sign_cols (n : Int) : (s.cols n).sign = s.cols n.sign := by
  unfold cols
  cases s.mirror <;> simp

@[simp] theorem rows_eq_iff {a b : Int} : s.rows a = s.rows b ↔ a = b := by
  unfold rows
  cases s.swap <;> simp

@[simp] theorem rows_zero : s.rows 0 = 0 := by
  unfold rows
  cases s.swap <;> rfl

@[simp] theorem cols_zero : s.cols 0 = 0 := by
  unfold cols
  cases s.mirror <;> rfl

@[simp] theorem rows_eq_zero_iff {n : Int} : s.rows n = 0 ↔ n = 0 := by
  unfold rows
  cases s.swap <;> simp

@[simp] theorem cols_eq_zero_iff {n : Int} : s.cols n = 0 ↔ n = 0 := by
  unfold cols
  cases s.mirror <;> simp

/-- Going the image way from the image square leads to the image of where the way leads. -/
theorem shift?_square (sq : Square) (rows cols : Int) :
    (s.square sq).shift? (s.rows rows) (s.cols cols) = (sq.shift? rows cols).map s.square := by
  ext found
  have image : (sq.shift? rows cols).map s.square = some found ↔
      sq.shift? rows cols = some (s.square found) := by
    rw [Option.map_eq_some_iff]
    constructor
    · rintro ⟨there, reached, rfl⟩
      rw [reached, s.square_square]
    · intro reached
      exact ⟨s.square found, reached, s.square_square found⟩
  rw [image]
  unfold Square.shift?
  rw [Square.ofCoords?_eq_some_iff, Square.ofCoords?_eq_some_iff, rank_square, rank_square,
    file_square, file_square]
  unfold Symmetry.rows Symmetry.cols
  cases s.swap <;> cases s.mirror <;> simp only [if_true, Bool.false_eq_true, if_false] <;> omega

theorem heading_side (side : Side) : (s.side side).heading = s.rows side.heading := by
  unfold Symmetry.side rows
  cases s.swap <;> simp

theorem inPalace_square (sq : Square) (side : Side) :
    (s.square sq).inPalace (s.side side) = sq.inPalace side := by
  have rowBound := sq.row.isLt
  have colBound := sq.col.isLt
  rw [Bool.eq_iff_iff]
  unfold Square.inPalace square Symmetry.side
  cases s.swap <;> cases s.mirror <;> cases side <;>
    simp only [if_true, Bool.false_eq_true, if_false, Side.opponent, Bool.and_eq_true,
      decide_eq_true_eq, Fin.val_rev] <;> omega

theorem onOwnBank_square (sq : Square) (side : Side) :
    (s.square sq).onOwnBank (s.side side) = sq.onOwnBank side := by
  have rowBound := sq.row.isLt
  rw [Bool.eq_iff_iff]
  unfold Square.onOwnBank square Symmetry.side
  cases s.swap <;> cases side <;>
    simp only [if_true, Bool.false_eq_true, if_false, Side.opponent, decide_eq_true_eq,
      Fin.val_rev] <;> omega

end Symmetry

end Xiangqi
