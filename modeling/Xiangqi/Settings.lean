import Xiangqi.Side

/-!
# Settings

What a host may choose before a game: which side moves first, whether a horse can be blocked at the
leg, and how much is logged. Only the second choice is a rule of the board itself.
-/

namespace Xiangqi

/-- The rule switches that travel with a board. -/
structure Rules where
  /-- A horse is blocked by a piece on the orthogonal neighbour on the long side of its jump. -/
  horseLegBlocking : Bool := false
deriving DecidableEq

/-- The choices of a host. The defaults hold for everything that is not chosen. -/
structure Settings where
  firstToMove : Side := .red
  horseLegBlocking : Bool := false
  /-- The log filter, see `LogFilter`. -/
  logLevel : String := "info"
deriving DecidableEq

/-- The rule switches among the settings. -/
def Settings.rules (settings : Settings) : Rules :=
  ⟨settings.horseLegBlocking⟩

end Xiangqi
