import Mathlib.Data.List.Basic
import Xiangqi.Proofs.Json.Spelling

/-!
# Records read from JSON values

A record may be written as an object, its members in any order, or as an array of its fields in their
order. `Gives` is the value of a field in either form. Reading a record gives exactly these values:
no field of a well-keyed object has two values (`find?_of_wellKeyed`), and what a record gives is
what is read at the place of the field (`Gives.mem_zip`).
-/

namespace Xiangqi.Json

variable {fields : List String} {closed : Bool} {members : List (Option String × Json)}
  {elements : List Json} {values : List (Option Json)} {field name : String} {json value : Json}

theorem choice?_eq_some_iff :
    json.choice? = some name ↔ json = .text (some name) ∨ json = .object [(some name, .null)] := by
  constructor
  · intro chosen
    unfold choice? at chosen
    split at chosen
    · rw [chosen]
      exact .inl rfl
    · rw [chosen]
      exact .inr rfl
    · cases chosen
  · rintro (rfl | rfl) <;> rfl

/-- The value that a record gives a field: that of a member with this key, or the one that stands at
the place of the field. -/
inductive Gives (fields : List String) : Json → String → Json → Prop
  | member {members : List (Option String × Json)} {field : String} {value : Json}
    (listed : (some field, value) ∈ members) : Gives fields (.object members) field value
  | element {elements : List Json} {field : String} {value : Json} {place : Nat}
    (named : fields[place]? = some field) (stands : elements[place]? = some value) :
    Gives fields (.array elements) field value

theorem countP_le_one_of_wellKeyed (keyed : wellKeyed fields closed members = true)
    (known : field ∈ fields) : members.countP (fun member => member.1 == some field) ≤ 1 := by
  rw [wellKeyed, Bool.and_eq_true, List.all_eq_true, List.all_eq_true] at keyed
  exact of_decide_eq_true (keyed.2 field known)

/-- A field of a well-keyed object has no second value. -/
theorem find?_of_wellKeyed (keyed : wellKeyed fields closed members = true) (known : field ∈ fields)
    (listed : (some field, value) ∈ members) :
    (members.find? fun member => member.1 == some field) = some (some field, value) := by
  have once := countP_le_one_of_wellKeyed keyed known
  rw [List.countP_eq_length_filter] at once
  have among : (some field, value) ∈ members.filter fun member => member.1 == some field :=
    List.mem_filter.mpr ⟨listed, beq_self_eq_true _⟩
  rw [← List.head?_filter]
  cases hits : members.filter fun member => member.1 == some field with
  | nil =>
    rw [hits] at among
    cases among
  | cons hit others =>
    rw [hits] at once among
    obtain rfl : others = [] := List.eq_nil_of_length_eq_zero (by simpa using once)
    rw [List.mem_singleton.mp among, List.head?_cons]

theorem record?_array_eq_some_iff : (array elements).record? fields closed = some values ↔
    elements.length ≤ fields.length ∧
      values = elements.map some ++ List.replicate (fields.length - elements.length) none := by
  rw [record?, Option.ite_none_right_eq_some, Option.some.injEq, eq_comm (a := values)]

theorem record?_object_eq_some_iff : (object members).record? fields closed = some values ↔
    wellKeyed fields closed members = true ∧ values = fields.map fun field =>
      (members.find? fun member => member.1 == some field).map Prod.snd := by
  rw [record?, Option.ite_none_right_eq_some, Option.some.injEq, eq_comm (a := values)]

/-- What a record gives a field is what is read at the place of the field. -/
theorem Gives.mem_zip (gives : Gives fields json field value) (known : field ∈ fields)
    (record : json.record? fields closed = some values) :
    (field, some value) ∈ fields.zip values := by
  cases gives with
  | member listed =>
    obtain ⟨keyed, rfl⟩ := record?_object_eq_some_iff.mp record
    rw [← List.map_prod_left_eq_zip, List.mem_map]
    refine ⟨field, known, ?_⟩
    rw [find?_of_wellKeyed keyed known listed, Option.map_some]
  | @element elements _ _ place named stands =>
    obtain ⟨-, rfl⟩ := record?_array_eq_some_iff.mp record
    obtain ⟨inside, here⟩ := List.getElem?_eq_some_iff.mp stands
    apply List.mem_of_getElem? (i := place)
    rw [List.getElem?_zip_eq_some]
    refine ⟨named, ?_⟩
    rw [List.getElem?_append_left (by rwa [List.length_map]), List.getElem?_map, stands,
      Option.map_some]

/-- An object without this key leaves the field open. -/
theorem none_mem_zip_of_absent (known : field ∈ fields)
    (absent : ∀ member ∈ members, member.1 ≠ some field)
    (record : (object members).record? fields closed = some values) :
    (field, none) ∈ fields.zip values := by
  obtain ⟨-, rfl⟩ := record?_object_eq_some_iff.mp record
  rw [← List.map_prod_left_eq_zip, List.mem_map]
  have noHit : (members.find? fun member => member.1 == some field) = none :=
    List.find?_eq_none.mpr fun member listed hit => absent member listed (eq_of_beq hit)
  refine ⟨field, known, ?_⟩
  rw [noHit, Option.map_none]

theorem Gives.isSound (gives : Gives fields json field value) (sound : json.isSound = true) :
    value.isSound = true := by
  cases gives with
  | member listed =>
    rw [isSound_object, List.all_eq_true] at sound
    exact sound _ listed
  | element named stands =>
    rw [isSound_array, List.all_eq_true] at sound
    exact sound _ (List.mem_of_getElem? stands)

end Xiangqi.Json
