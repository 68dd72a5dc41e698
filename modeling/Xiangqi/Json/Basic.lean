import Xiangqi.Text.Numeral

/-!
# JSON values

A value as it was written: numbers keep their literal, and objects keep the order and the repetition
of their members, because whether `1.0` is an integer and whether a repeated key is an error is for
the reader of the value to say. A string whose escapes leave half of a surrogate pair alone is
well-formed as syntax but stands for no text; it is the text `none`.
-/

namespace Xiangqi

/-- A JSON value. -/
inductive Json where
  | null
  | bool (value : Bool)
  | number (literal : List Char)
  | text (value : Option String)
  | array (elements : List Json)
  | object (members : List (Option String × Json))

namespace Json

/-- The 32-bit integer that a value is: a literal without fraction and exponent, and not `-0`. -/
def int32? : Json → Option Int32
  | number literal =>
    if literal = ['-', '0'] then none else Text.int32? literal
  | _ => none

/-- The truth value that a value is. -/
def bool? : Json → Option Bool
  | bool value => some value
  | _ => none

/-- The text that a value is. -/
def text? : Json → Option String
  | text value => value
  | _ => none

/-- The name of a choice without content: a text, or an object with that one key and the value
`null`. -/
def choice? : Json → Option String
  | text value => value
  | object [(key, null)] => key
  | _ => none

/-- The members of an object can be told apart: every key is a text, no field is given twice, and in
a closed record every key is one of the fields. -/
def wellKeyed (fields : List String) (closed : Bool) (members : List (Option String × Json)) :
    Bool :=
  members.all (fun member => match member.1 with
    | some key => !closed || fields.contains key
    | none => false)
  && fields.all fun field => members.countP (fun member => member.1 == some field) ≤ 1

/-- The values of the fields of a record, in the order of `fields`, with `none` for a field that is
absent. A record is an object, or an array with the values of the first fields in order. -/
def record? (fields : List String) (closed : Bool) : Json → Option (List (Option Json))
  | array elements =>
    if elements.length ≤ fields.length then
      some (elements.map some ++ List.replicate (fields.length - elements.length) none)
    else
      none
  | object members =>
    if wellKeyed fields closed members then
      some (fields.map fun field =>
        (members.find? fun member => member.1 == some field).map Prod.snd)
    else
      none
  | _ => none

end Json

end Xiangqi
