/-!
# The two sides

Red sits at the bottom of the board (rows 5 to 9), Black at the top (rows 0 to 4). Rows are counted
from Black's back rank, so Red advances toward smaller row numbers.
-/

namespace Xiangqi

/-- One of the two players. -/
inductive Side where
  | red
  | black
deriving DecidableEq

namespace Side

/-- The player on the other side of the board. -/
def opponent : Side → Side
  | red => black
  | black => red

/-- Change of the row number in one step toward the opponent's back rank. -/
def heading : Side → Int
  | red => -1
  | black => 1

/-- The name used in placements, settings and messages. -/
def name : Side → String
  | red => "red"
  | black => "black"

/-- The side with the given name; names are matched exactly. -/
def ofName? : String → Option Side
  | "red" => some red
  | "black" => some black
  | _ => none

/-- Both sides, Red first: the order in which setup checks look at them. -/
def all : List Side := [red, black]

@[simp] theorem opponent_opponent (side : Side) : side.opponent.opponent = side := by
  cases side <;> rfl

theorem opponent_ne (side : Side) : side.opponent ≠ side := by
  cases side <;> decide

theorem eq_opponent_of_ne {a b : Side} (different : a ≠ b) : a = b.opponent := by
  cases a <;> cases b <;> first | rfl | exact absurd rfl different

@[simp] theorem heading_opponent (side : Side) : side.opponent.heading = -side.heading := by
  cases side <;> rfl

@[simp] theorem ofName?_name (side : Side) : ofName? side.name = some side := by
  cases side <;> rfl

theorem mem_all (side : Side) : side ∈ all := by
  cases side <;> decide

end Side

end Xiangqi
