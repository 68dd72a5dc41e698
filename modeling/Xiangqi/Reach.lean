import Xiangqi.Board.Line

/-!
# How pieces move

`Board.reaches` says whether a piece may travel to a square by the rule of its kind, given what
stands on the board. It looks at geometry and occupation only; whether the move leaves the own
general in danger is a separate question. A general also reaches the opposing general along an open
row or column, so that generals that face each other attack each other.
-/

namespace Xiangqi

namespace Square

/-- The rows between two squares, positive toward Red's back rank. -/
def rowsTo (source target : Square) : Int := target.rank - source.rank

/-- The columns between two squares, positive toward higher columns. -/
def colsTo (source target : Square) : Int := target.file - source.file

end Square

namespace Board

/-- One orthogonal step inside the palace, or an open line to a general. -/
def generalReaches (board : Board) (piece : Piece) (target : Square) : Bool :=
  if (piece.position.rowsTo target).natAbs + (piece.position.colsTo target).natAbs = 1 then
    target.inPalace piece.side
  else
    (board.pieceOn target).any Piece.isGeneral &&
      board.between? piece.position target == some 0

/-- One diagonal step inside the palace. -/
def advisorReaches (piece : Piece) (target : Square) : Bool :=
  (piece.position.rowsTo target).natAbs == 1 && (piece.position.colsTo target).natAbs == 1 &&
    target.inPalace piece.side

/-- Two diagonal steps on the own bank, over a free square. -/
def elephantReaches (board : Board) (piece : Piece) (target : Square) : Bool :=
  let rows := piece.position.rowsTo target
  let cols := piece.position.colsTo target
  rows.natAbs == 2 && cols.natAbs == 2 && target.onOwnBank piece.side &&
    match piece.position.shift? rows.sign cols.sign with
    | some eye => !board.isOccupied eye
    | none => false

/-- The square next to a horse on the long side of its jump. -/
def horseLeg? (source target : Square) : Option Square :=
  let rows := source.rowsTo target
  let cols := source.colsTo target
  if rows.natAbs = 2 then source.shift? rows.sign 0 else source.shift? 0 cols.sign

/-- One step along one axis and two along the other; if the rules say so, the leg has to be free. -/
def horseReaches (board : Board) (piece : Piece) (target : Square) : Bool :=
  let rows := (piece.position.rowsTo target).natAbs
  let cols := (piece.position.colsTo target).natAbs
  ((rows == 1 && cols == 2) || (rows == 2 && cols == 1)) &&
    (!board.rules.horseLegBlocking ||
      (horseLeg? piece.position target).any fun leg => !board.isOccupied leg)

/-- Any way along a free line. -/
def chariotReaches (board : Board) (piece : Piece) (target : Square) : Bool :=
  board.between? piece.position target == some 0

/-- Any way along a free line to a free square, or over exactly one piece to capture. -/
def cannonReaches (board : Board) (piece : Piece) (target : Square) : Bool :=
  board.between? piece.position target == some (if board.isOccupied target then 1 else 0)

/-- One step forward, or, on the opponent's bank, one step sideways. -/
def pawnReaches (piece : Piece) (target : Square) : Bool :=
  let rows := piece.position.rowsTo target
  let cols := piece.position.colsTo target
  (rows == piece.side.heading && cols == 0) ||
    (!piece.position.onOwnBank piece.side && rows == 0 && cols.natAbs == 1)

/-- Whether the piece may travel to the square by the rule of its kind. No piece reaches its own
square or a square that holds a piece of its own side. -/
def reaches (board : Board) (piece : Piece) (target : Square) : Bool :=
  piece.position != target &&
  !((board.pieceOn target).any fun other => other.side == piece.side) &&
  match piece.kind with
  | .general => board.generalReaches piece target
  | .advisor => advisorReaches piece target
  | .elephant => board.elephantReaches piece target
  | .horse => board.horseReaches piece target
  | .chariot => board.chariotReaches piece target
  | .cannon => board.cannonReaches piece target
  | .pawn => pawnReaches piece target

/-- The squares that the piece reaches, in board order. -/
def reachOf (board : Board) (piece : Piece) : List Square :=
  Square.all.filter (board.reaches piece)

end Board

end Xiangqi
