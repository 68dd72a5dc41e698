import Xiangqi.Board.Setup
import Xiangqi.Legal
import Xiangqi.Notation

/-!
# Games

A game is a board, the side to move, a status and the list of moves made. A move is first looked at
(`Game.mover`): it is refused, with the reason, unless the piece belongs to the side to move,
reaches the square and leaves its own general safe. An allowed move is then made (`Game.follow`):
the board changes, the move is recorded, the turn passes, and the game ends if the next side has no
legal move. A refused move changes nothing.
-/

namespace Xiangqi

/-- Whether a game goes on, and if not, who has won; nobody wins a draw. -/
inductive Status where
  | inProgress
  | over (winner : Option Side)
deriving DecidableEq

/-- One move that was made: what moved, what it captured, and how the move is written. -/
structure Ply where
  source : Square
  target : Square
  kind : Kind
  side : Side
  captured : Option Kind
  wxf : String
deriving DecidableEq

/-- A game of two sides on one board. -/
structure Game where
  board : Board
  toMove : Side
  firstToMove : Side
  status : Status
  /-- The moves made, oldest first. -/
  plies : List Ply
  /-- The number of the current full move; it starts at 1 and grows when both sides have moved. -/
  fullMoves : UInt32
deriving DecidableEq

namespace Game

/-- A game before its first move. -/
def start (board : Board) (toMove : Side) : Game :=
  ⟨board, toMove, toMove, .inProgress, [], 1⟩

/-- Start from a prepared board: each side needs one general, and the side that waits must not stand
in check already. -/
def ofBoard (board : Board) (toMove : Side) : Except SetupError Game := do
  board.checkGenerals
  match board.inCheck toMove.opponent with
  | .ok true => .error (.waitingSideInCheck toMove.opponent)
  | _ => return start board toMove

/-- Start from a placement under the given settings. -/
def ofPlacement (placement : Placement) (settings : Settings) : Except SetupError Game := do
  let board ← Board.ofPlacement placement settings.rules
  ofBoard board settings.firstToMove

/-- Start from the standard opening under the given settings. -/
def opening (settings : Settings) : Game :=
  start (Board.opening settings.rules) settings.firstToMove

/-- The number of moves made. -/
def plyCount (game : Game) : Nat :=
  game.plies.length

/-- Whether the side's general is in danger. -/
def inCheck (game : Game) (side : Side) : Except Corruption Bool :=
  game.board.inCheck side

/-- The legal moves of the side to move. -/
def legalMoves (game : Game) : Except Corruption (List Move) :=
  game.board.legalMoves game.toMove

/-- The squares to which whatever stands on the given square may move. -/
def destinations (game : Game) (source : Square) : Except Corruption (List Square) :=
  game.board.destinations source

/-- The piece that makes the move, if the move is allowed. The reasons against it are looked at in
a fixed order: the game is over, the square is free, the piece is the opponent's, it does not reach
the square, its own general would be in danger. -/
def mover (game : Game) (source target : Square) : Except MoveError Piece :=
  if game.status ≠ .inProgress then
    .error (.refused .gameOver)
  else
    match game.board.pieceOn source with
    | none => .error (.refused (.noPiece source))
    | some piece =>
      if piece.side ≠ game.toMove then
        .error (.refused (.notYourPiece source piece.side game.toMove))
      else if game.board.reaches piece target = false then
        .error (.refused (.unreachable source target))
      else
        match game.board.safeAfter piece target with
        | .error corruption => .error (.corrupt corruption)
        | .ok false => .error (.refused (.exposesGeneral piece.side))
        | .ok true => .ok piece

/-- The record of a move that the piece makes from the game's board. -/
def plyOf (game : Game) (piece : Piece) (source target : Square) (captured : Option Piece) :
    Ply where
  source := source
  target := target
  kind := piece.kind
  side := piece.side
  captured := captured.map Piece.kind
  wxf := (Notation.describe? game.board source target).getD ""

/-- The game after a recorded move has led to the given board. -/
def afterPly (game : Game) (ply : Ply) (board : Board) (winner : Option Side) : Game where
  board := board
  toMove := game.toMove.opponent
  firstToMove := game.firstToMove
  status := match winner with
    | some side => .over (some side)
    | none => game.status
  plies := game.plies ++ [ply]
  fullMoves := if game.toMove = game.firstToMove then game.fullMoves else game.fullMoves + 1

/-- Make an allowed move of the piece. The new board is audited and the verdict on the next side is
found before anything is taken over. -/
def follow (game : Game) (piece : Piece) (source target : Square) :
    Except Corruption (Ply × Game) := do
  let (captured, board) ← game.board.transfer source target
  board.audit
  let winner ← board.verdict game.toMove.opponent
  let ply := game.plyOf piece source target captured
  return (ply, game.afterPly ply board winner)

/-- Make a move for the side to move, or say why it is not made. -/
def play (game : Game) (source target : Square) : Except MoveError (Ply × Game) := do
  let piece ← game.mover source target
  match game.follow piece source target with
  | .ok made => .ok made
  | .error corruption => .error (.corrupt corruption)

/-- End the game with the given winner; a game ends only once. -/
def finish (game : Game) (winner : Option Side) : Except Refusal Game :=
  if game.status = .inProgress then
    .ok { game with status := .over winner }
  else
    .error .gameOver

/-- The side resigns, whether or not it is to move. -/
def resignSide (game : Game) (side : Side) : Except Refusal Game :=
  game.finish (some side.opponent)

/-- The side to move resigns. -/
def resign (game : Game) : Except Refusal Game :=
  game.resignSide game.toMove

/-- Both sides agree on a draw. -/
def agreeDraw (game : Game) : Except Refusal Game :=
  game.finish none

end Game

end Xiangqi
