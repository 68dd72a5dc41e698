import Xiangqi.Placement.Json
import Xiangqi.Settings

/-!
# Settings as JSON

The rule switches are a record with one field, which has to be there. The settings are a record with
three fields, each of which may be absent and then has its default; other keys are errors.
-/

namespace Xiangqi

/-- The rule switches that a value describes; keys other than the switch are ignored. -/
def Rules.ofJson? (json : Json) : Option Rules := do
  match ← json.record? ["horse_leg_blocking"] false with
  | [some blocking] => return ⟨← blocking.bool?⟩
  | _ => none

/-- The value of a field that may be absent. -/
def Json.orDefault {α : Type} (default : α) (read : Json → Option α) : Option Json → Option α
  | some value => read value
  | none => some default

/-- The settings that a value describes. -/
def Settings.ofJson? (json : Json) : Option Settings := do
  let standard : Settings := {}
  match ← json.record? ["first_to_move", "horse_leg_blocking", "log_level"] true with
  | [side, blocking, level] =>
    return {
      firstToMove := ← Json.orDefault standard.firstToMove Side.ofJson? side
      horseLegBlocking := ← Json.orDefault standard.horseLegBlocking Json.bool? blocking
      logLevel := ← Json.orDefault standard.logLevel Json.text? level }
  | _ => none

end Xiangqi
