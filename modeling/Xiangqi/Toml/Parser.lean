import Xiangqi.Toml.Table
import Xiangqi.Toml.Token

/-!
# Settings texts

Statements are put together from tokens by a machine with a stack of the values that are still open.
A statement ends with its line; only arrays may go on over several lines. Values are texts, truth
values, arrays and tables in braces. TOML also has numbers, dates and arrays of tables; no setting
takes one, so a text with one of them describes no settings and is refused as a whole.
-/

namespace Xiangqi.Toml

/-- A value that is still open, with its contents so far. -/
inductive Frame where
  /-- The value of a key of the document. -/
  | assign (path : List String)
  /-- An array; its elements are kept newest first. -/
  | array (elements : List Item)
  /-- A table in braces, between two members. -/
  | table (members : Members)
  /-- A table in braces whose next value belongs to the given key. -/
  | member (members : Members) (path : List String)

/-- What may come next. The parts of an unfinished key are kept newest first. -/
inductive Stage where
  /-- A statement or an empty line. -/
  | lineStart
  /-- The end of the line. -/
  | lineEnd
  /-- A part of a header. -/
  | headerPart (path : List String)
  /-- After a part of a header: another part, or its end. -/
  | headerNext (path : List String)
  /-- A part of a key. -/
  | keyPart (stack : List Frame) (path : List String)
  /-- After a part of a key: another part, or the value. -/
  | keyNext (stack : List Frame) (path : List String)
  | value (stack : List Frame)
  /-- An element of the array on top of the stack, or its end. -/
  | element (stack : List Frame)
  /-- After an element: a comma or the end. -/
  | elementNext (stack : List Frame)
  /-- After an opening brace: a key or the end. -/
  | tableStart (stack : List Frame)
  /-- After a member: a comma or the end. -/
  | tableNext (stack : List Frame)

/-- The machine: the statements so far, newest first, and what may come next. -/
structure Progress where
  statements : List Statement
  stage : Stage

/-- The part of a key that a token is. -/
def Token.keyPart? : Token → Option String
  | .word chars => some (String.ofList chars)
  | .text value false => some value
  | _ => none

namespace Progress

/-- Go on with another stage. -/
def goTo (progress : Progress) (stage : Stage) : Progress :=
  { progress with stage := stage }

/-- Hand a complete value to whatever is open around it. -/
def deliver (progress : Progress) (item : Item) : List Frame → Option Progress
  | .assign path :: _ => some ⟨.assign path item :: progress.statements, .lineEnd⟩
  | .array elements :: stack =>
    some (progress.goTo (.elementNext (.array (item :: elements) :: stack)))
  | .member members path :: stack =>
    (Members.assign item path members).map fun members =>
      progress.goTo (.tableNext (.table members :: stack))
  | _ => none

/-- Read the first token of a value. -/
def beginValue (progress : Progress) (stack : List Frame) : Token → Option Progress
  | .text value _ => progress.deliver (.text value) stack
  | .word chars =>
    if chars = ['t', 'r', 'u', 'e'] then progress.deliver (.bool true) stack
    else if chars = ['f', 'a', 'l', 's', 'e'] then progress.deliver (.bool false) stack
    else none
  | .openBracket => some (progress.goTo (.element (.array [] :: stack)))
  | .openBrace => some (progress.goTo (.tableStart (.table [] :: stack)))
  | _ => none

/-- Read a part of a key. -/
def takeKeyPart (progress : Progress) (stack : List Frame) (path : List String) (token : Token) :
    Option Progress :=
  token.keyPart?.map fun part => progress.goTo (.keyNext stack (part :: path))

/-- The key is complete: its value comes next. -/
def takeEquals (progress : Progress) (path : List String) : List Frame → Option Progress
  | [] => some (progress.goTo (.value [.assign path.reverse]))
  | .table members :: stack => some (progress.goTo (.value (.member members path.reverse :: stack)))
  | _ => none

/-- The array on top of the stack is complete. -/
def closeArray (progress : Progress) : List Frame → Option Progress
  | .array elements :: stack => progress.deliver (.array elements.reverse) stack
  | _ => none

/-- The table on top of the stack is complete. -/
def closeTable (progress : Progress) : List Frame → Option Progress
  | .table members :: stack => progress.deliver (.table .inline members) stack
  | _ => none

/-- Read one token; fails on a token that cannot stand there. -/
def take (progress : Progress) (token : Token) : Option Progress :=
  match progress.stage, token with
  | .lineStart, .lineEnd => some progress
  | .lineStart, .openBracket => some (progress.goTo (.headerPart []))
  | .lineStart, _ => progress.takeKeyPart [] [] token
  | .lineEnd, .lineEnd => some (progress.goTo .lineStart)
  | .headerPart path, _ =>
    token.keyPart?.map fun part => progress.goTo (.headerNext (part :: path))
  | .headerNext path, .dot => some (progress.goTo (.headerPart path))
  | .headerNext path, .closeBracket => some ⟨.header path.reverse :: progress.statements, .lineEnd⟩
  | .keyPart stack path, _ => progress.takeKeyPart stack path token
  | .keyNext stack path, .dot => some (progress.goTo (.keyPart stack path))
  | .keyNext stack path, .equals => progress.takeEquals path stack
  | .value stack, _ => progress.beginValue stack token
  | .element _, .lineEnd => some progress
  | .element stack, .closeBracket => progress.closeArray stack
  | .element stack, _ => progress.beginValue stack token
  | .elementNext _, .lineEnd => some progress
  | .elementNext stack, .comma => some (progress.goTo (.element stack))
  | .elementNext stack, .closeBracket => progress.closeArray stack
  | .tableStart stack, .closeBrace => progress.closeTable stack
  | .tableStart stack, _ => progress.takeKeyPart stack [] token
  | .tableNext stack, .comma => some (progress.goTo (.keyPart stack []))
  | .tableNext stack, .closeBrace => progress.closeTable stack
  | _, _ => none

/-- Read a run of tokens. -/
def takeAll (progress : Progress) : List Token → Option Progress
  | [] => some progress
  | token :: rest => (progress.take token).bind fun next => next.takeAll rest

/-- The statements in order, once the tokens have ended; the last one has to be complete. -/
def finish (progress : Progress) : Option (List Statement) :=
  match progress.stage with
  | .lineStart | .lineEnd => some progress.statements.reverse
  | _ => none

theorem takeAll_append (progress : Progress) (first second : List Token) :
    progress.takeAll (first ++ second) =
      (progress.takeAll first).bind fun next => next.takeAll second := by
  induction first generalizing progress with
  | nil => rfl
  | cons token rest ih =>
    simp only [List.cons_append, takeAll]
    cases progress.take token with
    | none => rfl
    | some next => exact ih next

end Progress

/-- The statements that a run of tokens spells. -/
def statements? (tokens : List Token) : Option (List Statement) :=
  ((Progress.mk [] .lineStart).takeAll tokens).bind Progress.finish

/-- The top table that a text describes. -/
def parse? (text : String) : Option Members := do
  let tokens ← tokens? text.toList
  let statements ← statements? tokens
  Document.ofStatements? statements

end Xiangqi.Toml
