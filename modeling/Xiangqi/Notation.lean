import Xiangqi.Board.Basic

/-!
# WXF notation

A move is written in four characters: the letter of the piece, where it comes from, how it goes, and
how far. Files are numbered from 1 at the mover's right hand. `+` is forward, `-` backward and `.`
sideways. Advisors, elephants and horses, and all sideways moves, name the file they go to; other
moves name the number of rows. When exactly two pieces of the kind share the file they come from,
`+` for the front one or `-` for the rear one stands in place of the file.
-/

namespace Xiangqi.Notation

/-- The number of the square's file as the side counts, from 1 to 9. -/
def fileNumber (sq : Square) : Side → Nat
  | .red => 9 - sq.col.val
  | .black => sq.col.val + 1

/-- Rows gained toward the opponent, negative on a retreat. -/
def gain (side : Side) (source target : Square) : Int :=
  (target.rank - source.rank) * side.heading

/-- Whether the kind's moves are told apart by the file they go to rather than by their length. -/
def namesFile : Kind → Bool
  | .advisor | .elephant | .horse => true
  | .general | .chariot | .cannon | .pawn => false

/-- The pieces of the same side and kind on the file of the given square. -/
def sharers (board : Board) (piece : Piece) (source : Square) : List Piece :=
  (board.army piece.side).filter fun other =>
    other.kind == piece.kind && other.position.col == source.col

/-- Where the piece comes from: its file, or its place among two that share the file. -/
def origin (board : Board) (piece : Piece) (source : Square) : Char :=
  let sharers := sharers board piece source
  if sharers.length = 2 then
    if sharers.all fun other => 0 ≤ gain piece.side other.position source then '+' else '-'
  else
    Nat.digitChar (fileNumber source piece.side)

/-- The sign for a gain of rows. -/
def course (gained : Int) : Char :=
  if 0 < gained then '+' else if gained < 0 then '-' else '.'

/-- The last character: the file the move goes to, or the number of rows. -/
def operand (piece : Piece) (source target : Square) : Char :=
  let gained := gain piece.side source target
  if namesFile piece.kind || gained == 0 then
    Nat.digitChar (fileNumber target piece.side)
  else
    Nat.digitChar gained.natAbs

/-- The four characters of a move of the given piece. -/
def write (board : Board) (piece : Piece) (source target : Square) : List Char :=
  [piece.glyph, origin board piece source, course (gain piece.side source target),
    operand piece source target]

/-- The notation of a move on the board before the move; there is none from a free square. -/
def describe? (board : Board) (source target : Square) : Option String :=
  (board.pieceOn source).map fun piece => String.ofList (write board piece source target)

end Xiangqi.Notation
