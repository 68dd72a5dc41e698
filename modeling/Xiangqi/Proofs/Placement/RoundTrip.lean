import Xiangqi.Proofs.Placement.Forms

/-!
# Written placements

A placement is written as an array of objects. `Placement.toJson` is the value that is written, and
the writing is the layout of that value (`Placement.toList_pretty`), with the entries in their order,
their keys in the same order and the canonical names of the kinds. So reading goes back in two steps:
the text is put together to that value, and the value describes the placement. The coordinates are any
32-bit integers, on the board or not.
-/

namespace Xiangqi

open Json

namespace Entry

/-- The value that a written entry spells. -/
def toJson (entry : Entry) : Json :=
  .object [(some "kind", .text (some entry.kind.name)), (some "side", .text (some entry.side.name)),
    (some "row", .number (toString entry.row.toInt).toList),
    (some "col", .number (toString entry.col.toInt).toList)]

/-- An entry is written as an object, with its canonical name. -/
theorem form_toJson (entry : Entry) : Form entry entry.toJson :=
  .object List.mem_cons_self (List.Perm.refl _)

theorem isPlain_toJson (entry : Entry) : entry.toJson.tokens.all Token.isPlain = true := by
  have kind : (Token.text (some entry.kind.name)).isPlain = true := by
    cases entry.kind <;> decide +kernel
  have side : (Token.text (some entry.side.name)).isPlain = true := by
    cases entry.side <;> decide +kernel
  have row : (Token.number (toString entry.row.toInt).toList).isPlain = true :=
    isNumber_toString entry.row.toInt
  have col : (Token.number (toString entry.col.toInt).toList).isPlain = true :=
    isNumber_toString entry.col.toInt
  have keys : ∀ field ∈ fields, (Token.text (some field)).isPlain = true := by decide +kernel
  simp only [fields, List.mem_cons, List.not_mem_nil, or_false, forall_eq_or_imp, forall_eq] at keys
  rw [toJson, all_tokens_object rfl rfl rfl rfl]
  simp only [List.all_cons, List.all_nil, tokens, keys, kind, side, row, col, Bool.and_true]

/-- The layout of an entry inside of an array, for any texts in the place of its values. -/
theorem toList_layout (kind side row col : String) :
    ("  \x7b\n    \"kind\": \"" ++ kind ++ "\",\n    \"side\": \"" ++ side ++
        "\",\n    \"row\": " ++ row ++ ",\n    \"col\": " ++ col ++ "\n  \x7d").toList =
      [' ', ' '] ++ (Json.object [(some "kind", .text (some kind)), (some "side", .text (some side)),
        (some "row", .number row.toList), (some "col", .number col.toList)]).layout 1 := by
  simp [layout, layoutMembers, newline, quote]

theorem toList_pretty (entry : Entry) :
    entry.pretty.toList = [' ', ' '] ++ entry.toJson.layout 1 :=
  toList_layout entry.kind.name entry.side.name (toString entry.row.toInt)
    (toString entry.col.toInt)

end Entry

namespace Placement

/-- The value that a written placement spells. -/
def toJson (placement : Placement) : Json :=
  .array (placement.map Entry.toJson)

theorem forms_toJson (placement : Placement) :
    List.Forall₂ Entry.Form placement (placement.map Entry.toJson) := by
  rw [List.forall₂_map_right_iff, List.forall₂_same]
  exact fun entry _ => entry.form_toJson

theorem isPlain_toJson (placement : Placement) : placement.toJson.isPlain = true := by
  rw [Json.isPlain, toJson, all_tokens_array rfl rfl rfl, List.all_map, List.all_eq_true]
  exact fun entry _ => entry.isPlain_toJson

/-- The entries with a comma between any two of them, and the end of the array. -/
theorem toList_entries (first : Entry) (rest : Placement) :
    ",\n".toList.intercalate ((first :: rest).map fun entry => entry.pretty.toList) ++
        "\n]".toList =
      [' ', ' '] ++ (first.toJson.layout 1 ++ layoutElements 0 (rest.map Entry.toJson)) := by
  induction rest generalizing first with
  | nil =>
    rw [List.map_singleton, List.intercalate_singleton, Entry.toList_pretty, List.map_nil,
      layoutElements, List.append_assoc]
    rfl
  | cons second others ih =>
    rw [List.map_cons, List.map_cons, List.intercalate_cons_cons, List.append_assoc,
      List.append_assoc]
    have further := ih second
    rw [List.map_cons] at further
    rw [further, Entry.toList_pretty, List.map_cons, layoutElements, List.append_assoc]
    rfl

/-- What is written for a placement is the layout of its value. -/
theorem toList_pretty (placement : Placement) :
    (pretty placement).toList = placement.toJson.layout 0 := by
  cases placement with
  | nil => decide +kernel
  | cons first rest =>
    have written : (pretty (first :: rest)).toList = "[\n".toList ++
        (",\n".toList.intercalate ((first :: rest).map fun entry => entry.pretty.toList) ++
          "\n]".toList) := by
      rw [pretty, List.isEmpty_cons, if_neg Bool.false_ne_true, String.toList_append,
        String.toList_append, String.toList_intercalate, List.map_map, List.append_assoc]
      rfl
    rw [written, toList_entries, toJson, List.map_cons, layout]
    rfl

theorem writes_pretty (placement : Placement) : Writes (pretty placement) placement.toJson :=
  writes_of_layout (isPlain_toJson placement) (toList_pretty placement)

/-- Every placement is read back from what is written for it. -/
theorem read_pretty (placement : Placement) : read (pretty placement) = .ok placement :=
  (read_eq_ok_iff (writes_pretty placement)).mpr
    ⟨isSound_of_forms (forms_toJson placement),
      (forms_toJson placement).imp fun _ _ form => form.ofJson?_eq⟩

/-- Every placement is written as the array of its entries, laid out on lines, and what is written is
put together to that array again and read as the placement, whatever the length of the list and
wherever the entries lie. -/
theorem written_placement_read_back (placement : Placement) :
    (pretty placement).toList = (Json.array (placement.map Entry.toJson)).layout 0 ∧
      parse? (pretty placement) = some (.array (placement.map Entry.toJson)) ∧
      read (pretty placement) = .ok placement := by
  refine ⟨toList_pretty placement, ?_, read_pretty placement⟩
  rw [(writes_pretty placement).parse?_eq, toJson, isSound_of_forms (forms_toJson placement),
    if_pos rfl]

end Placement

end Xiangqi
