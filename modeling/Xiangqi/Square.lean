import Xiangqi.Side

/-!
# Squares of the board

A square is a row between 0 and 9 and a column between 0 and 8, both held in their types, so every
`Square` is on the board. Row 0 is Black's back rank and row 9 is Red's. `Square.all` lists the
ninety squares in board order: row by row, each row from column 0.
-/

namespace Xiangqi

/-- A point of the board. -/
structure Square where
  row : Fin 10
  col : Fin 9
deriving DecidableEq

namespace Square

theorem ext {a b : Square} (rows : a.row = b.row) (cols : a.col = b.col) : a = b := by
  cases a
  cases b
  cases rows
  cases cols
  rfl

/-- The square at the given coordinates, if they lie on the board. -/
def ofCoords? (row col : Int) : Option Square :=
  if h : (0 ≤ row ∧ row < 10) ∧ 0 ≤ col ∧ col < 9 then
    some ⟨⟨row.toNat, by omega⟩, ⟨col.toNat, by omega⟩⟩
  else
    none

/-- The row as an integer, for differences of rows. -/
def rank (sq : Square) : Int := (sq.row.val : Int)

/-- The column as an integer, for differences of columns. -/
def file (sq : Square) : Int := (sq.col.val : Int)

/-- The square that lies `rows` rows and `cols` columns further, if it is on the board. -/
def shift? (sq : Square) (rows cols : Int) : Option Square :=
  ofCoords? (sq.rank + rows) (sq.file + cols)

/-- All ninety squares in board order. -/
def all : List Square :=
  (List.finRange 10).flatMap fun row => (List.finRange 9).map fun col => ⟨row, col⟩

/-- Whether the square is one of the nine points of the side's palace. -/
def inPalace (sq : Square) (side : Side) : Bool :=
  let inRows := match side with
    | .red => 7 ≤ sq.row.val
    | .black => sq.row.val ≤ 2
  inRows && 3 ≤ sq.col.val && sq.col.val ≤ 5

/-- Whether the square is on the side's own bank of the river. -/
def onOwnBank (sq : Square) : Side → Bool
  | .red => 5 ≤ sq.row.val
  | .black => sq.row.val ≤ 4

/-- The written form: row and column in parentheses. -/
def text (sq : Square) : String :=
  s!"({sq.row.val},{sq.col.val})"

theorem mem_all (sq : Square) : sq ∈ all := by
  simp only [all, List.mem_flatMap, List.mem_map]
  exact ⟨sq.row, List.mem_finRange _, sq.col, List.mem_finRange _, rfl⟩

theorem nodup_all : all.Nodup := by
  decide

@[simp] theorem ofCoords?_rank_file (sq : Square) : ofCoords? sq.rank sq.file = some sq := by
  have hr := sq.row.isLt
  have hc := sq.col.isLt
  have onBoard : (0 ≤ sq.rank ∧ sq.rank < 10) ∧ 0 ≤ sq.file ∧ sq.file < 9 := by
    simp only [rank, file]
    omega
  simp only [ofCoords?, dif_pos onBoard]
  rfl

/-- Coordinates name a square exactly when they are its own row and column. -/
theorem ofCoords?_eq_some_iff {row col : Int} {sq : Square} :
    ofCoords? row col = some sq ↔ row = sq.rank ∧ col = sq.file := by
  constructor
  · intro found
    unfold ofCoords? at found
    split at found
    · rename_i onBoard
      cases found
      simp only [rank, file]
      omega
    · cases found
  · rintro ⟨rfl, rfl⟩
    exact ofCoords?_rank_file sq

/-- Coordinates name no square exactly when one of them leaves the board. -/
theorem ofCoords?_eq_none_iff {row col : Int} :
    ofCoords? row col = none ↔ row < 0 ∨ 10 ≤ row ∨ col < 0 ∨ 9 ≤ col := by
  unfold ofCoords?
  split
  · rename_i onBoard
    simp only [reduceCtorEq, false_iff]
    omega
  · rename_i offBoard
    simp only [true_iff]
    omega

end Square

/-- A change of place: from one square to another, whatever stands on either. -/
structure Move where
  source : Square
  target : Square
deriving DecidableEq

/-- The written form: both squares, joined by a hyphen. -/
def Move.text (move : Move) : String :=
  s!"{move.source.text}-{move.target.text}"

end Xiangqi
