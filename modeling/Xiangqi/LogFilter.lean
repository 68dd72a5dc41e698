import Xiangqi.Pattern

/-!
# Log filters

A log filter is a list of directives with commas between them; nothing between two commas is no
directive. A directive names a target or a level, or a span in brackets with a field in braces, and
may end with `=` and a level. A field may end with `=` and a value, which is a number or a pattern.

White space around a directive is no part of its form. The form is found on the directive without
it, but the names, fields and levels are taken from the whole directive, at the same places counted
in bytes of UTF-8. So white space in front displaces them, and a piece may begin or end inside a
character; then the filter cannot be read at all.
-/

namespace Xiangqi.LogFilter

/-- What comes of reading a filter or a part of it. -/
inductive Verdict where
  | accepted
  | refused
  /-- A piece begins or ends inside a character. -/
  | broken
deriving DecidableEq

/-- The verdict on a piece that has the right form or has not. -/
def Verdict.ofForm (good : Bool) : Verdict :=
  if good then .accepted else .refused

/-! ## Pieces -/

/-- The number of bytes of a text in UTF-8. -/
def byteCount : List Char → Nat
  | [] => 0
  | c :: rest => c.utf8Size + byteCount rest

/-- The text cut after the given number of bytes; fails inside a character and behind the end. -/
def cut? : Nat → List Char → Option (List Char × List Char)
  | 0, text => some ([], text)
  | _ + 1, [] => none
  | bytes + 1, c :: rest =>
    if c.utf8Size ≤ bytes + 1 then
      (cut? (bytes + 1 - c.utf8Size) rest).map fun (before, behind) => (c :: before, behind)
    else
      none

/-- The piece of the text from a place on that has the given number of bytes. -/
def piece? (text : List Char) (place bytes : Nat) : Option (List Char) := do
  let (_, behind) ← cut? place text
  let (piece, _) ← cut? bytes behind
  return piece

/-! ## Levels and fields -/

/-- The names of the levels, from silence to everything. -/
def levelNames : List String := ["off", "error", "warn", "info", "debug", "trace"]

/-- The text is a level: a name in letters of either case, or a number up to five. -/
def isLevel (text : List Char) : Bool :=
  let digits := match text with
    | '+' :: rest => rest
    | _ => text
  (Text.natural? digits).any (· < levelNames.length) ||
    levelNames.contains (String.ofList (text.map Char.toLower))

/-- Without a sign in front. -/
def unsigned : List Char → List Char
  | '+' :: rest => rest
  | '-' :: rest => rest
  | text => text

/-- The text is empty or an exponent, which needs digits. -/
def isExponent : List Char → Bool
  | [] => true
  | c :: rest => (c == 'e' || c == 'E') && (Text.natural? (unsigned rest)).isSome

/-- The text is a decimal number: digits before or behind a point or both, and an exponent if there
is one; or infinity, or no number at all, in letters of either case. -/
def isDecimal (text : List Char) : Bool :=
  let body := unsigned text
  let whole := body.takeWhile Char.isDigit
  ["inf", "infinity", "nan"].contains (String.ofList (body.map Char.toLower)) ||
    match body.dropWhile Char.isDigit with
    | '.' :: rest =>
      !(whole.isEmpty && (rest.takeWhile Char.isDigit).isEmpty) &&
        isExponent (rest.dropWhile Char.isDigit)
    | rest => !whole.isEmpty && isExponent rest

/-- The text is a field: a name, and if `=` follows, a value; what a second `=` is followed by does
not matter. -/
def isField (text : List Char) : Bool :=
  match text.dropWhile (· != '=') with
  | [] => !text.isEmpty
  | _ :: rest =>
    let value := rest.takeWhile (· != '=')
    isDecimal value || Pattern.isPattern value

/-! ## Directives -/

/-- Read the level at a place, which goes to the end of the whole directive. -/
def readLevel (whole : List Char) (place : Nat) : Verdict :=
  match cut? place whole with
  | some (_, level) => .ofForm (level.isEmpty || isLevel level)
  | none => .broken

/-- Read what is behind the end of a span. -/
def readAfterSpan (whole : List Char) (place : Nat) : List Char → Verdict
  | [] => .accepted
  | '=' :: _ => readLevel whole (place + 1)
  | _ => .refused

/-- Read on from the opening brace of a span. -/
def readField (whole : List Char) (place : Nat) (text : List Char) : Verdict :=
  let bytes := byteCount (text.takeWhile (· != '\x7d'))
  match text.dropWhile (· != '\x7d') with
  | [] => .refused
  | _ :: rest =>
    match piece? whole place bytes with
    | none => .broken
    | some field =>
      if isField field then
        match rest with
        | ']' :: others => readAfterSpan whole (place + bytes + 2) others
        | _ => .refused
      else
        .refused

/-- Read on from the opening bracket of a span. -/
def readSpan (whole : List Char) (place : Nat) (text : List Char) : Verdict :=
  let bytes := byteCount (text.takeWhile fun c => c != ']' && c != '\x7b')
  match text.dropWhile fun c => c != ']' && c != '\x7b' with
  | [] => .refused
  | sign :: rest =>
    match piece? whole place bytes with
    | none => .broken
    | some _ =>
      if sign = ']' then readAfterSpan whole (place + bytes + 1) rest
      else readField whole (place + bytes + 1) rest

/-- A target or a level may begin with the character. -/
def opensTarget (c : Char) : Bool :=
  c == '-' || c == ':' || c == '_' || Text.isAlphanumeric c

/-- Read a directive that begins with a target or a level. -/
def readTarget (whole text : List Char) : Verdict :=
  let bytes := byteCount (text.takeWhile fun c => c != '=' && c != '[')
  match text.dropWhile fun c => c != '=' && c != '[' with
  | [] => .accepted
  | sign :: rest =>
    match piece? whole 0 bytes with
    | none => .broken
    | some _ =>
      if sign = '=' then readLevel whole (bytes + 1) else readSpan whole (bytes + 1) rest

/-- Read a directive. -/
def readDirective (whole : List Char) : Verdict :=
  match Text.trim whole with
  | [] => .refused
  | '[' :: rest => readSpan whole 1 rest
  | first :: rest => if opensTarget first then readTarget whole (first :: rest) else .refused

/-- Read directives one after the other; the first that is not accepted decides. -/
def readAll : List (List Char) → Verdict
  | [] => .accepted
  | directive :: rest =>
    match readDirective directive with
    | .accepted => readAll rest
    | verdict => verdict

/-- Read a log filter. -/
def read (text : String) : Verdict :=
  readAll ((Text.split (· == ',') text.toList).filter fun directive => !directive.isEmpty)

end Xiangqi.LogFilter
