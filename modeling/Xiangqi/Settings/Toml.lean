import Xiangqi.Fault
import Xiangqi.Settings
import Xiangqi.Toml.Parser

/-!
# Settings as TOML

A settings text gives values to some of three keys. The others keep their defaults, and any further
key is an error. A side is a text, or a table with the side's name as its only key and nothing under
it.
-/

namespace Xiangqi

/-- The item holds nothing: an empty table or an empty array. -/
def Toml.Item.isHollow : Toml.Item → Bool
  | .table _ members => members.isEmpty
  | .array elements => elements.isEmpty
  | _ => false

/-- The side that an item names. -/
def Side.ofItem? : Toml.Item → Option Side
  | .text name => ofName? name
  | .table _ [(name, content)] => if content.isHollow then ofName? name else none
  | _ => none

namespace Settings

/-- Take over the value of one key. -/
def override (settings : Settings) (key : String) (item : Toml.Item) : Option Settings :=
  match key, item with
  | "first_to_move", item => do
    let side ← Side.ofItem? item
    return { settings with firstToMove := side }
  | "horse_leg_blocking", .bool blocking => some { settings with horseLegBlocking := blocking }
  | "log_level", .text level => some { settings with logLevel := level }
  | _, _ => none

/-- The settings that a table describes. -/
def ofMembers? (members : Toml.Members) : Option Settings :=
  members.foldlM (fun settings (key, item) => settings.override key item) {}

/-- The settings that a text describes. -/
def read (text : String) : Except SetupError Settings :=
  match (Toml.parse? text).bind ofMembers? with
  | some settings => .ok settings
  | none => .error .malformedSettings

/-- The settings in a file, given its bytes if it is there; the bytes have to be UTF-8. -/
def load (content : Option ByteArray) : Except SetupError Settings :=
  match content.bind String.fromUTF8? with
  | some text => read text
  | none => .error .unreadableFile

end Settings

end Xiangqi
