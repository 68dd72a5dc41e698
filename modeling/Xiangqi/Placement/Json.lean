import Xiangqi.Fault
import Xiangqi.Json.Parser
import Xiangqi.Placement

/-!
# Placements as JSON

A placement is an array of entries, each an object with the keys `kind`, `side`, `row` and `col` in
any order, or an array of these four values in this order. Kinds may go by any of their names.
Written placements use the object form, one key a line, two spaces of indentation a level.
-/

namespace Xiangqi

/-- The side that a value names. -/
def Side.ofJson? (json : Json) : Option Side :=
  json.choice?.bind Side.ofName?

/-- The kind that a value names. -/
def Kind.ofJson? (json : Json) : Option Kind :=
  json.choice?.bind Kind.ofName?

namespace Entry

/-- The keys of an entry, in the order of the array form. -/
def fields : List String := ["kind", "side", "row", "col"]

/-- The entry that a value describes; keys other than its four are ignored. -/
def ofJson? (json : Json) : Option Entry := do
  match ← json.record? fields false with
  | [some kind, some side, some row, some col] =>
    return ⟨← Kind.ofJson? kind, ← Side.ofJson? side, ← row.int32?, ← col.int32?⟩
  | _ => none

/-- The written form of an entry, indented as an element of a placement. -/
def pretty (entry : Entry) : String :=
  "  \x7b\n    \"kind\": \"" ++ entry.kind.name ++
  "\",\n    \"side\": \"" ++ entry.side.name ++
  "\",\n    \"row\": " ++ toString entry.row.toInt ++
  ",\n    \"col\": " ++ toString entry.col.toInt ++
  "\n  \x7d"

end Entry

namespace Placement

/-- The placement that a value describes. -/
def ofJson? : Json → Option Placement
  | .array elements => elements.mapM Entry.ofJson?
  | _ => none

/-- The placement that a text describes. -/
def read (text : String) : Except SetupError Placement :=
  match (Json.parse? text).bind ofJson? with
  | some placement => .ok placement
  | none => .error .malformedPlacement

/-- The written form of a placement. -/
def pretty (placement : Placement) : String :=
  if placement.isEmpty then "[]"
  else "[\n" ++ ",\n".intercalate (placement.map Entry.pretty) ++ "\n]"

end Placement

/-- The square that a value gives as an array of a row and a column, if it lies on the board. -/
def Square.ofJson? : Json → Option Square
  | .array [row, col] => do Square.ofCoords? (← row.int32?).toInt (← col.int32?).toInt
  | _ => none

end Xiangqi
