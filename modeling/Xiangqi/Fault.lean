import Xiangqi.Square

/-!
# Faults

Three families are kept apart. A `SetupError` is bad input at the boundary: coordinates, placements,
settings. A `Refusal` is an ordinary illegal move; the game goes on unchanged. A `Corruption` says
that a board is not one on which a game can be played. Each family has its wording in one place.
-/

namespace Xiangqi

/-- Input that is turned down before any board or game is built from it. -/
inductive SetupError where
  /-- Coordinates that name no square. -/
  | outOfBounds (row col : Int32)
  /-- Text that is not of the form `row,col`. -/
  | malformedSquare (text : String)
  /-- A square that is used twice. -/
  | squareOccupied (square : Square)
  /-- A side without a general. -/
  | missingGeneral (side : Side)
  /-- A side with several generals. -/
  | duplicateGeneral (side : Side)
  /-- The side that is not to move stands in check, which no play can lead to. -/
  | waitingSideInCheck (side : Side)
  /-- A placement text that cannot be read. -/
  | malformedPlacement
  /-- A settings text that cannot be read. -/
  | malformedSettings
  /-- A file that is absent or holds no text. -/
  | unreadableFile
deriving DecidableEq

/-- The wording of a setup error. -/
def SetupError.message : SetupError → String
  | outOfBounds row col => s!"square ({row.toInt},{col.toInt}) is outside the 10x9 board"
  | malformedSquare text => s!"cannot parse square from '{text}', expected 'row,col'"
  | squareOccupied square => s!"square {square.text} is already occupied"
  | missingGeneral side => s!"{side.name} has no general in the placement"
  | duplicateGeneral side => s!"{side.name} has more than one general in the placement"
  | waitingSideInCheck side => s!"{side.name} is already in check although it is not to move"
  | malformedPlacement => "invalid placement JSON"
  | malformedSettings => "invalid configuration"
  | unreadableFile => "failed to read file"

/-- A board on which no game can be played. -/
inductive Corruption where
  | generalMissing (side : Side)
  | generalCount (side : Side) (count : Nat)
  | positionMismatch (slot stored : Square)
  | emptySource (square : Square)
deriving DecidableEq

/-- The wording of a corruption. -/
def Corruption.message : Corruption → String
  | generalMissing side => s!"{side.name} general is missing from a live board"
  | generalCount side count => s!"{side.name} has {count} generals on the board"
  | positionMismatch slot stored =>
    s!"piece in slot {slot.text} believes it stands on {stored.text}"
  | emptySource square => s!"relocation from empty square {square.text}"

/-- The reason why a move is not allowed. -/
inductive Refusal where
  | gameOver
  | noPiece (square : Square)
  | notYourPiece (square : Square) (owner toMove : Side)
  | unreachable (source target : Square)
  | exposesGeneral (side : Side)
deriving DecidableEq

/-- The wording of a refusal. -/
def Refusal.message : Refusal → String
  | gameOver => "the game is already over"
  | noPiece square => s!"no piece on {square.text}"
  | notYourPiece square owner toMove =>
    s!"piece on {square.text} belongs to {owner.name}, but {toMove.name} is to move"
  | unreachable source target => s!"piece on {source.text} cannot reach {target.text}"
  | exposesGeneral side => s!"move would leave the {side.name} general in danger"

/-- Why a move was not made: it is not allowed, or the board is broken. -/
inductive MoveError where
  | refused (reason : Refusal)
  | corrupt (corruption : Corruption)
deriving DecidableEq

end Xiangqi
