import Xiangqi.Placement.Json
import Xiangqi.Proofs.Json.Layout
import Xiangqi.Proofs.Json.Record

/-!
# The written forms of a placement

An entry may be written as an object with its four keys in any order or as an array of its four
values, and its kind may go by any of its names (`Entry.Form`). Every text that writes an array of
such values, with any white space between the tokens, is read as the same placement. One entry with a
key too few or too many, an array of another length, an unknown name or a coordinate that is not the
printed form of a 32-bit integer (`Entry.Misformed`) makes the whole text an error, whatever the
other entries are.
-/

namespace Xiangqi

open Json

/-! ## Names -/

namespace Kind

/-- All names of a kind, the canonical one first. -/
def names (kind : Kind) : List String :=
  kind.name :: kind.aliases

theorem ofName?_eq_some_iff {text : String} {kind : Kind} :
    ofName? text = some kind ↔ text ∈ kind.names := by
  constructor
  · intro named
    have accepted := List.find?_some named
    rw [Bool.or_eq_true, beq_iff_eq, List.contains_iff_mem] at accepted
    exact List.mem_cons.mpr accepted
  · intro named
    rcases List.mem_cons.mp named with rfl | named
    · exact ofName?_name kind
    · exact ofName?_alias named

/-- A kind is named by a text, or by an object with the name as its only key and the value null. -/
theorem ofJson?_eq_some_iff {json : Json} {kind : Kind} :
    ofJson? json = some kind ↔
      ∃ name ∈ kind.names, json = .text (some name) ∨ json = .object [(some name, .null)] := by
  simp only [ofJson?, Option.bind_eq_some_iff, ofName?_eq_some_iff, choice?_eq_some_iff]
  exact exists_congr fun name => and_comm

end Kind

namespace Side

theorem ofName?_eq_some_iff {text : String} {side : Side} :
    ofName? text = some side ↔ text = side.name := by
  constructor
  · intro named
    unfold ofName? at named
    split at named <;> cases named <;> rfl
  · rintro rfl
    exact ofName?_name side

theorem ofJson?_eq_some_iff {json : Json} {side : Side} :
    ofJson? json = some side ↔
      json = .text (some side.name) ∨ json = .object [(some side.name, .null)] := by
  simp only [ofJson?, Option.bind_eq_some_iff, ofName?_eq_some_iff, choice?_eq_some_iff,
    exists_eq_right]

end Side

/-! ## Entries -/

namespace Entry

/-- The value is a written form of the entry. -/
inductive Form (entry : Entry) : Json → Prop
  /-- The four values in the order of the fields. -/
  | array {name : String} (named : name ∈ entry.kind.names) :
    Form entry (.array [.text (some name), .text (some entry.side.name), decimal entry.row,
      decimal entry.col])
  /-- The four members in any order. -/
  | object {name : String} {members : List (Option String × Json)}
    (named : name ∈ entry.kind.names)
    (ordered : members.Perm [(some "kind", .text (some name)),
      (some "side", .text (some entry.side.name)), (some "row", decimal entry.row),
      (some "col", decimal entry.col)]) : Form entry (.object members)

/-- The value is not an entry, for one of the reasons that a written placement is refused for. -/
inductive Misformed : Json → Prop
  /-- An object lacks a key. -/
  | absent {members : List (Option String × Json)} {field : String} (known : field ∈ fields)
    (absent : ∀ member ∈ members, member.1 ≠ some field) : Misformed (.object members)
  /-- An object has a key twice. -/
  | repeated {members : List (Option String × Json)} {field : String} (known : field ∈ fields)
    (twice : 1 < members.countP fun member => member.1 == some field) : Misformed (.object members)
  /-- An array has fewer or more than four elements. -/
  | length {elements : List Json} (other : elements.length ≠ 4) : Misformed (.array elements)
  /-- The kind goes by no known name. -/
  | kind {json value : Json} (given : Gives fields json "kind" value)
    (unknown : ∀ kind : Kind, ∀ name ∈ kind.names,
      value ≠ .text (some name) ∧ value ≠ .object [(some name, .null)]) : Misformed json
  /-- The side goes by no known name. -/
  | side {json value : Json} (given : Gives fields json "side" value)
    (unknown : ∀ side : Side,
      value ≠ .text (some side.name) ∧ value ≠ .object [(some side.name, .null)]) : Misformed json
  /-- A coordinate is anything but a 32-bit integer in plain decimal, also a malformed number. -/
  | coordinate {json value : Json} {field : String} (coordinate : field = "row" ∨ field = "col")
    (given : Gives fields json field value) (noInteger : ∀ integer, value ≠ decimal integer) :
    Misformed json

/-- An entry is read from a record whose four fields can all be read. -/
theorem ofJson?_eq_some_iff {json : Json} {entry : Entry} :
    ofJson? json = some entry ↔ ∃ kind side row col,
      json.record? fields false = some [some kind, some side, some row, some col] ∧
      Kind.ofJson? kind = some entry.kind ∧ Side.ofJson? side = some entry.side ∧
      row.int32? = some entry.row ∧ col.int32? = some entry.col := by
  constructor
  · intro read
    unfold ofJson? at read
    simp only [Option.bind_eq_bind, Option.bind_eq_some_iff] at read
    obtain ⟨values, record, read⟩ := read
    split at read
    · rename_i kind side row col
      simp only [Option.bind_eq_some_iff, Option.pure_def, Option.some.injEq] at read
      obtain ⟨entryKind, kindRead, entrySide, sideRead, entryRow, rowRead, entryCol, colRead, rfl⟩ :=
        read
      exact ⟨kind, side, row, col, record, kindRead, sideRead, rowRead, colRead⟩
    · cases read
  · rintro ⟨kind, side, row, col, record, kindRead, sideRead, rowRead, colRead⟩
    simp only [ofJson?, record, Option.bind_eq_bind, Option.bind_some, kindRead, sideRead, rowRead,
      colRead]
    rfl

/-- The values of the four fields are found, whatever their order. -/
theorem record?_of_perm {members : List (Option String × Json)} {kind side row col : Json}
    (ordered : members.Perm
      [(some "kind", kind), (some "side", side), (some "row", row), (some "col", col)]) :
    (Json.object members).record? fields false =
      some [some kind, some side, some row, some col] := by
  have keyed : wellKeyed fields false members = true := by
    simp only [wellKeyed, ordered.all_eq, ordered.countP_eq]
    rfl
  have kindListed : (some "kind", kind) ∈ members := ordered.mem_iff.mpr (by simp)
  have sideListed : (some "side", side) ∈ members := ordered.mem_iff.mpr (by simp)
  have rowListed : (some "row", row) ∈ members := ordered.mem_iff.mpr (by simp)
  have colListed : (some "col", col) ∈ members := ordered.mem_iff.mpr (by simp)
  rw [record?_object_eq_some_iff]
  refine ⟨keyed, ?_⟩
  simp only [fields, List.map_cons, List.map_nil,
    find?_of_wellKeyed keyed (by decide) kindListed, find?_of_wellKeyed keyed (by decide) sideListed,
    find?_of_wellKeyed keyed (by decide) rowListed, find?_of_wellKeyed keyed (by decide) colListed,
    Option.map_some]

variable {entry : Entry} {json : Json}

/-- Every written form of an entry is read as that entry. -/
theorem Form.ofJson?_eq (form : Form entry json) : ofJson? json = some entry := by
  have rowRead : (decimal entry.row).int32? = some entry.row := int32?_decimal entry.row
  have colRead : (decimal entry.col).int32? = some entry.col := int32?_decimal entry.col
  have sideRead : Side.ofJson? (.text (some entry.side.name)) = some entry.side :=
    Side.ofJson?_eq_some_iff.mpr (.inl rfl)
  rw [ofJson?_eq_some_iff]
  cases form with
  | @array name named =>
    have kindRead : Kind.ofJson? (.text (some name)) = some entry.kind :=
      Kind.ofJson?_eq_some_iff.mpr ⟨name, named, .inl rfl⟩
    exact ⟨_, _, _, _, rfl, kindRead, sideRead, rowRead, colRead⟩
  | @object name members named ordered =>
    have kindRead : Kind.ofJson? (.text (some name)) = some entry.kind :=
      Kind.ofJson?_eq_some_iff.mpr ⟨name, named, .inl rfl⟩
    exact ⟨_, _, _, _, record?_of_perm ordered, kindRead, sideRead, rowRead, colRead⟩

theorem Form.isSound (form : Form entry json) : json.isSound = true := by
  have row := isSound_decimal entry.row
  have col := isSound_decimal entry.col
  cases form with
  | array named =>
    rw [isSound_array, List.all_cons, List.all_cons, List.all_cons, List.all_cons, row, col]
    rfl
  | object named ordered =>
    rw [isSound_object, ordered.all_eq, List.all_cons, List.all_cons, List.all_cons, List.all_cons,
      row, col]
    rfl

/-- No misformed value is read as an entry, unless it holds a malformed number. -/
theorem Misformed.ofJson?_ne (misformed : Misformed json) (sound : json.isSound = true)
    (entry : Entry) : ofJson? json ≠ some entry := by
  intro read
  obtain ⟨kind, side, row, col, record, kindRead, sideRead, rowRead, colRead⟩ :=
    ofJson?_eq_some_iff.mp read
  cases misformed with
  | absent known absent =>
    have missing := none_mem_zip_of_absent known absent record
    simp [fields] at missing
  | repeated known twice =>
    obtain ⟨keyed, -⟩ := record?_object_eq_some_iff.mp record
    have once := countP_le_one_of_wellKeyed keyed known
    omega
  | @length elements other =>
    obtain ⟨-, padded⟩ := record?_array_eq_some_iff.mp record
    have noneLeft : (none : Option Json) ∉ [some kind, some side, some row, some col] := by simp
    rw [padded, List.mem_append, List.mem_replicate] at noneLeft
    have filled : ¬ fields.length - elements.length ≠ 0 := fun left => noneLeft (.inr ⟨left, rfl⟩)
    have lengths := congrArg List.length padded
    simp only [fields, List.length_cons, List.length_nil, List.length_append, List.length_map,
      List.length_replicate] at filled lengths
    omega
  | @kind _ value given unknown =>
    have same : value = kind := by simpa [fields] using given.mem_zip (by decide) record
    obtain ⟨name, named, spelled⟩ := Kind.ofJson?_eq_some_iff.mp kindRead
    rw [← same] at spelled
    exact spelled.elim (unknown _ name named).1 (unknown _ name named).2
  | @side _ value given unknown =>
    have same : value = side := by simpa [fields] using given.mem_zip (by decide) record
    have spelled := Side.ofJson?_eq_some_iff.mp sideRead
    rw [← same] at spelled
    exact spelled.elim (unknown _).1 (unknown _).2
  | @coordinate _ value field coordinate given noInteger =>
    have wellFormed := given.isSound sound
    rcases coordinate with rfl | rfl
    · have same : value = row := by simpa [fields] using given.mem_zip (by decide) record
      rw [← same, int32?_eq_some_iff_decimal wellFormed] at rowRead
      exact noInteger _ rowRead
    · have same : value = col := by simpa [fields] using given.mem_zip (by decide) record
      rw [← same, int32?_eq_some_iff_decimal wellFormed] at colRead
      exact noInteger _ colRead

end Entry

namespace Placement

variable {values : List Json} {text : String} {placement : Placement}

theorem ofJson?_array_eq_some_iff :
    ofJson? (.array values) = some placement ↔
      List.Forall₂ (fun entry value => Entry.ofJson? value = some entry) placement values := by
  rw [ofJson?]
  induction values generalizing placement with
  | nil =>
    rw [List.mapM_nil, Option.pure_def, Option.some.injEq, List.forall₂_nil_right_iff]
    exact eq_comm
  | cons value rest ih =>
    simp only [List.mapM_cons, Option.bind_eq_bind, Option.bind_eq_some_iff, Option.pure_def,
      Option.some.injEq, ih, List.forall₂_cons_right_iff]
    constructor
    · rintro ⟨entry, read, others, further, rfl⟩
      exact ⟨entry, others, read, further, rfl⟩
    · rintro ⟨entry, others, read, further, rfl⟩
      exact ⟨entry, read, others, further, rfl⟩

/-- A text that writes an array is read as a placement if all numbers in it are well-formed and its
elements are read as the entries, one by one. -/
theorem read_eq_ok_iff (writes : Writes text (.array values)) :
    read text = .ok placement ↔ (Json.array values).isSound = true ∧
      List.Forall₂ (fun entry value => Entry.ofJson? value = some entry) placement values := by
  rw [← ofJson?_array_eq_some_iff, read, writes.parse?_eq]
  cases (Json.array values).isSound with
  | false => simp
  | true =>
    rw [if_pos rfl, Option.bind_some]
    cases ofJson? (.array values) with
    | none => simp
    | some found => simp

theorem read_eq_ok_or_error (text : String) :
    (∃ placement, read text = .ok placement) ∨ read text = .error .malformedPlacement := by
  rw [read]
  cases (parse? text).bind ofJson? with
  | none => exact .inr rfl
  | some placement => exact .inl ⟨placement, rfl⟩

theorem isSound_of_forms (forms : List.Forall₂ Entry.Form placement values) :
    (Json.array values).isSound = true := by
  rw [isSound_array]
  induction forms with
  | nil => rfl
  | cons form _ ih =>
    rw [List.all_cons, form.isSound, ih]
    rfl

/-- Whatever form, name and white space is chosen for each entry, what is written is read as the
placement; and one misformed entry makes the whole text an error. -/
theorem written_forms_read_alike (writes : Writes text (.array values)) :
    (∀ placement, List.Forall₂ Entry.Form placement values → read text = .ok placement) ∧
    ((∃ value ∈ values, Entry.Misformed value) → read text = .error .malformedPlacement) := by
  constructor
  · intro placement forms
    exact (read_eq_ok_iff writes).mpr
      ⟨isSound_of_forms forms, forms.imp fun _ _ form => form.ofJson?_eq⟩
  · rintro ⟨value, listed, misformed⟩
    refine (read_eq_ok_or_error text).resolve_left ?_
    rintro ⟨placement, accepted⟩
    obtain ⟨sound, entries⟩ := (read_eq_ok_iff writes).mp accepted
    rw [isSound_array, List.all_eq_true] at sound
    obtain ⟨place, inside, rfl⟩ := List.getElem_of_mem listed
    have entry := entries.get (entries.length_eq ▸ inside) inside
    exact misformed.ofJson?_ne (sound _ listed) _ entry

/-- Two entries in different forms, both kinds by another name than the canonical one. -/
def mixedForms : List Json :=
  [.object [(some "col", decimal (-5)), (some "kind", .text (some "rook")),
      (some "side", .text (some "red")), (some "row", decimal 9)],
    .array [.text (some "king"), .text (some "black"), decimal 0, decimal 4]]

/-- A good entry, and one whose row is a zero with a minus. -/
def minusZeroRow : List Json :=
  [.array [.text (some "king"), .text (some "black"), decimal 0, decimal 4],
    .array [.text (some "pawn"), .text (some "red"), .number ['-', '0'], decimal 4]]

theorem written_forms_read_alike_mixed :
    read ("[\n  \x7b\n    \"col\": -5,\n    \"kind\": \"rook\",\n    \"side\": \"red\",\n" ++
        "    \"row\": 9\n  \x7d,\n  [\n    \"king\",\n    \"black\",\n    0,\n    4\n  ]\n]") =
      .ok [⟨.chariot, .red, 9, -5⟩, ⟨.general, .black, 0, 4⟩] ∧
    read ("[\n  [\n    \"king\",\n    \"black\",\n    0,\n    4\n  ],\n  [\n    \"pawn\",\n" ++
        "    \"red\",\n    -0,\n    4\n  ]\n]") = .error .malformedPlacement := by
  have mixedPlain : (Json.array mixedForms).isPlain = true := by decide +kernel
  have minusPlain : (Json.array minusZeroRow).isPlain = true := by decide +kernel
  have chariot : Entry.Form ⟨.chariot, .red, 9, -5⟩ (.object [(some "col", decimal (-5)),
      (some "kind", .text (some "rook")), (some "side", .text (some "red")),
      (some "row", decimal 9)]) :=
    @Entry.Form.object _ "rook" _ (by decide) (List.perm_append_singleton _ [_, _, _]).symm
  have general : Entry.Form ⟨.general, .black, 0, 4⟩
      (.array [.text (some "king"), .text (some "black"), decimal 0, decimal 4]) :=
    .array (by decide)
  have refused : (Json.number ['-', '0']).int32? = none := rfl
  have noInteger : ∀ integer, Json.number ['-', '0'] ≠ decimal integer := by
    intro integer same
    rw [same, int32?_decimal] at refused
    cases refused
  have misformed : Entry.Misformed (.array [.text (some "pawn"), .text (some "red"),
      .number ['-', '0'], decimal 4]) :=
    .coordinate (.inl rfl) (@Gives.element _ _ _ _ 2 rfl rfl) noInteger
  constructor
  · exact (written_forms_read_alike (writes_of_layout mixedPlain (by decide +kernel))).1 _
      (.cons chariot (.cons general .nil))
  · exact (written_forms_read_alike (writes_of_layout minusPlain (by decide +kernel))).2
      ⟨_, List.mem_cons_of_mem _ List.mem_cons_self, misformed⟩

end Placement

end Xiangqi
