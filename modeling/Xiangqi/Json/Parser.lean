import Xiangqi.Json.Basic
import Xiangqi.Json.Token

/-!
# JSON texts

A value is put together from tokens by a machine with a stack of the arrays and objects that are
still open, so values may be nested to any depth. Reading tokens that are put together from two
parts is reading the first part and going on with the second (`Progress.takeAll_append`). A text is
one value and nothing else.
-/

namespace Xiangqi.Json

/-- An array or object that is still open, with its contents so far, newest first. -/
inductive Frame where
  | array (elements : List Json)
  /-- The value that comes next belongs to `key`. -/
  | object (members : List (Option String × Json)) (key : Option String)

/-- What has been read, and with it what may come next. -/
inductive Progress where
  /-- A value has to come. -/
  | value (stack : List Frame)
  /-- An array has just been opened: a value or its end. -/
  | arrayStart (stack : List Frame)
  /-- An object has just been opened: a key or its end. -/
  | objectStart (stack : List Frame)
  /-- An element is complete: a comma or the end of the array. -/
  | afterElement (elements : List Json) (stack : List Frame)
  /-- A member is complete: a comma or the end of the object. -/
  | afterMember (members : List (Option String × Json)) (stack : List Frame)
  /-- A key has to come. -/
  | key (members : List (Option String × Json)) (stack : List Frame)
  /-- A colon has to come. -/
  | colon (members : List (Option String × Json)) (key : Option String) (stack : List Frame)
  /-- The whole value has been read. -/
  | complete (value : Json)

namespace Progress

/-- Hand a complete value to whatever is open around it. -/
def deliver (result : Json) : List Frame → Progress
  | [] => complete result
  | .array elements :: stack => afterElement (result :: elements) stack
  | .object members name :: stack => afterMember ((name, result) :: members) stack

/-- Read the first token of a value. -/
def begin (stack : List Frame) : Token → Option Progress
  | .null => some (deliver .null stack)
  | .bool truth => some (deliver (.bool truth) stack)
  | .number literal => some (deliver (.number literal) stack)
  | .text content => some (deliver (.text content) stack)
  | .openBracket => some (arrayStart stack)
  | .openBrace => some (objectStart stack)
  | _ => none

/-- Read one token; fails on a token that cannot stand there. -/
def take : Progress → Token → Option Progress
  | value stack, token => begin stack token
  | arrayStart stack, .closeBracket => some (deliver (.array []) stack)
  | arrayStart stack, token => begin (.array [] :: stack) token
  | objectStart stack, .closeBrace => some (deliver (.object []) stack)
  | objectStart stack, .text name => some (colon [] name stack)
  | afterElement elements stack, .comma => some (value (.array elements :: stack))
  | afterElement elements stack, .closeBracket => some (deliver (.array elements.reverse) stack)
  | afterMember members stack, .comma => some (key members stack)
  | afterMember members stack, .closeBrace => some (deliver (.object members.reverse) stack)
  | key members stack, .text name => some (colon members name stack)
  | colon members name stack, .colon => some (value (.object members name :: stack))
  | _, _ => none

/-- Read a run of tokens. -/
def takeAll (progress : Progress) : List Token → Option Progress
  | [] => some progress
  | token :: rest => (progress.take token).bind fun next => next.takeAll rest

/-- The value, once the tokens have ended. -/
def finish : Progress → Option Json
  | complete result => some result
  | _ => none

theorem takeAll_append (progress : Progress) (first second : List Token) :
    progress.takeAll (first ++ second) =
      (progress.takeAll first).bind fun next => next.takeAll second := by
  induction first generalizing progress with
  | nil => rfl
  | cons token rest ih =>
    simp only [List.cons_append, takeAll]
    cases progress.take token with
    | none => rfl
    | some next => exact ih next

end Progress

/-- The value that a run of tokens spells. -/
def ofTokens? (tokens : List Token) : Option Json :=
  ((Progress.value []).takeAll tokens).bind Progress.finish

/-- The value that a text spells. -/
def parse? (text : String) : Option Json :=
  (tokens? text.toList).bind ofTokens?

end Xiangqi.Json
