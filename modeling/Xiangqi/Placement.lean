import Xiangqi.Kind
import Xiangqi.Side

/-!
# Placements

A placement lists the pieces of a starting position. Its coordinates are plain numbers: whether they
lie on the board, and whether two pieces share a square, is checked when a board is set up from it.
The standard opening has thirty-two entries, Black's before Red's, each side from its back rank on.
-/

namespace Xiangqi

/-- One piece of a placement. -/
structure Entry where
  kind : Kind
  side : Side
  row : Int32
  col : Int32
deriving DecidableEq

/-- The pieces of a starting position; the order does not matter for the position. -/
abbrev Placement := List Entry

namespace Placement

/-- The kinds on a back rank, column by column. -/
def backRank : List Kind :=
  [.chariot, .horse, .elephant, .advisor, .general, .advisor, .elephant, .horse, .chariot]

/-- One side's pieces, given the rows of its back rank, its cannons and its pawns. -/
def camp (side : Side) (back cannons pawns : Int32) : Placement :=
  List.zipWith (fun kind col => ⟨kind, side, back, col⟩) backRank [0, 1, 2, 3, 4, 5, 6, 7, 8]
    ++ [1, 7].map (fun col => ⟨.cannon, side, cannons, col⟩)
    ++ [0, 2, 4, 6, 8].map fun col => ⟨.pawn, side, pawns, col⟩

/-- The standard opening. -/
def opening : Placement :=
  camp .black 0 2 3 ++ camp .red 9 7 6

end Placement

end Xiangqi
