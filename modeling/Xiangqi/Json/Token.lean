import Xiangqi.Text.Numeral

/-!
# JSON tokens

A text is cut into tokens by a machine that reads one character at a time, so reading a text that is
put together from two parts is reading the first part and going on with the second
(`Lexer.feedAll_append`). Names and numbers end at the next white space, punctuation or quotation
mark; whether such a run is a name or a number is decided at its end.
-/

namespace Xiangqi.Json

/-- A token. -/
inductive Token where
  | openBrace
  | closeBrace
  | openBracket
  | closeBracket
  | colon
  | comma
  | null
  | bool (value : Bool)
  | number (literal : List Char)
  | text (value : Option String)
deriving DecidableEq

/-- What a string holds at one place: a character, or a 16-bit code unit given by an escape. -/
inductive Unit16 where
  | char (value : Char)
  | code (value : Nat)
deriving DecidableEq

/-- The code unit opens a surrogate pair. -/
def isHighSurrogate (code : Nat) : Bool := 0xD800 ≤ code && code < 0xDC00

/-- The code unit closes a surrogate pair. -/
def isLowSurrogate (code : Nat) : Bool := 0xDC00 ≤ code && code < 0xE000

/-- The text of a string. Two escaped code units that form a surrogate pair are one character; a
surrogate without its partner stands for nothing. -/
def assemble : List Unit16 → Option (List Char)
  | [] => some []
  | .char c :: rest => (assemble rest).map (c :: ·)
  | .code high :: .code low :: rest =>
    if isHighSurrogate high then
      if isLowSurrogate low then
        (assemble rest).map
          (Char.ofNat (0x10000 + (high - 0xD800) * 0x400 + (low - 0xDC00)) :: ·)
      else
        none
    else if isLowSurrogate high then
      none
    else
      (assemble (.code low :: rest)).map (Char.ofNat high :: ·)
  | .code code :: rest =>
    if isHighSurrogate code || isLowSurrogate code then none
    else (assemble rest).map (Char.ofNat code :: ·)

/-- White space between tokens. -/
def isSpace (c : Char) : Bool := c == ' ' || c == '\t' || c == '\n' || c == '\r'

/-- The token that a punctuation character is. -/
def punctuation? : Char → Option Token
  | '\x7b' => some .openBrace
  | '\x7d' => some .closeBrace
  | '[' => some .openBracket
  | ']' => some .closeBracket
  | ':' => some .colon
  | ',' => some .comma
  | _ => none

/-- Without its leading digits, of which there has to be at least one. -/
def dropDigits? : List Char → Option (List Char)
  | c :: rest => if c.isDigit then some (rest.dropWhile Char.isDigit) else none
  | [] => none

/-- A digit run without superfluous zero: `0`, or any run that begins with another digit. -/
def dropWhole? : List Char → Option (List Char)
  | '0' :: rest => some rest
  | chars => dropDigits? chars

/-- Without a fraction, if one follows; a point needs digits after it. -/
def dropFraction? : List Char → Option (List Char)
  | '.' :: rest => dropDigits? rest
  | chars => some chars

/-- Without a sign, if one follows. -/
def dropSign : List Char → List Char
  | '+' :: rest => rest
  | '-' :: rest => rest
  | chars => chars

/-- Without an exponent, if one follows; an exponent needs digits. -/
def dropExponent? : List Char → Option (List Char)
  | 'e' :: rest => dropDigits? (dropSign rest)
  | 'E' :: rest => dropDigits? (dropSign rest)
  | chars => some chars

/-- Without a minus, if one follows. -/
def dropMinus : List Char → List Char
  | '-' :: rest => rest
  | chars => chars

/-- The text is a number: optional minus, whole part, optional fraction, optional exponent. -/
def isNumber (text : List Char) : Bool :=
  ((dropWhole? (dropMinus text)).bind dropFraction?).bind dropExponent? == some []

/-- The token that a run of other characters is. -/
def word? (text : List Char) : Option Token :=
  if text = ['n', 'u', 'l', 'l'] then some .null
  else if text = ['t', 'r', 'u', 'e'] then some (.bool true)
  else if text = ['f', 'a', 'l', 's', 'e'] then some (.bool false)
  else if isNumber text then some (.number text)
  else none

/-- The character that a one-letter escape stands for. -/
def escaped? : Char → Option Char
  | '"' => some '"'
  | '\\' => some '\\'
  | '/' => some '/'
  | 'b' => some '\x08'
  | 'f' => some '\x0c'
  | 'n' => some '\n'
  | 'r' => some '\r'
  | 't' => some '\t'
  | _ => none

/-- Where the machine stands. Runs that are not finished are kept with the newest item first. -/
inductive Mode where
  /-- Between tokens. -/
  | between
  /-- In a name or number. -/
  | word (chars : List Char)
  /-- In a string. -/
  | string (units : List Unit16)
  /-- In a string, after a backslash. -/
  | escape (units : List Unit16)
  /-- In a string, in an escape by code unit, with so many digits to come. -/
  | codeEscape (units : List Unit16) (missing : Nat) (code : Nat)
deriving DecidableEq

/-- The machine: the tokens so far, newest first, and where it stands. -/
structure Lexer where
  tokens : List Token
  mode : Mode
deriving DecidableEq

namespace Lexer

/-- The machine before the first character. -/
def start : Lexer := ⟨[], .between⟩

/-- Read a character between tokens. -/
def begin (tokens : List Token) (c : Char) : Lexer :=
  if isSpace c then ⟨tokens, .between⟩
  else if c = '"' then ⟨tokens, .string []⟩
  else match punctuation? c with
    | some token => ⟨token :: tokens, .between⟩
    | none => ⟨tokens, .word [c]⟩

/-- The character ends a name or number. -/
def endsWord (c : Char) : Bool :=
  isSpace c || c == '"' || (punctuation? c).isSome

/-- Read one character; fails on a character that cannot stand there. -/
def feed (lexer : Lexer) (c : Char) : Option Lexer :=
  match lexer.mode with
  | .between => some (begin lexer.tokens c)
  | .word chars =>
    if endsWord c then
      (word? chars.reverse).map fun token => begin (token :: lexer.tokens) c
    else
      some { lexer with mode := .word (c :: chars) }
  | .string units =>
    if c = '"' then
      some ⟨.text ((assemble units.reverse).map String.ofList) :: lexer.tokens, .between⟩
    else if c = '\\' then
      some { lexer with mode := .escape units }
    else if c.toNat < 0x20 then
      none
    else
      some { lexer with mode := .string (.char c :: units) }
  | .escape units =>
    if c = 'u' then
      some { lexer with mode := .codeEscape units 4 0 }
    else
      (escaped? c).map fun value => { lexer with mode := .string (.char value :: units) }
  | .codeEscape units missing code =>
    (Text.hexDigit? c).map fun digit =>
      let value := 16 * code + digit
      if missing ≤ 1 then
        { lexer with mode := .string (.code value :: units) }
      else
        { lexer with mode := .codeEscape units (missing - 1) value }

/-- Read a run of characters. -/
def feedAll (lexer : Lexer) : List Char → Option Lexer
  | [] => some lexer
  | c :: rest => (lexer.feed c).bind fun next => next.feedAll rest

/-- The tokens in order, once the text has ended; a string has to be closed by then. -/
def finish (lexer : Lexer) : Option (List Token) :=
  match lexer.mode with
  | .between => some lexer.tokens.reverse
  | .word chars => (word? chars.reverse).map fun token => (token :: lexer.tokens).reverse
  | _ => none

theorem feedAll_append (lexer : Lexer) (first second : List Char) :
    lexer.feedAll (first ++ second) =
      (lexer.feedAll first).bind fun next => next.feedAll second := by
  induction first generalizing lexer with
  | nil => rfl
  | cons c rest ih =>
    simp only [List.cons_append, feedAll]
    cases lexer.feed c with
    | none => rfl
    | some next => exact ih next

end Lexer

/-- The tokens of a text, if it can be cut into tokens. -/
def tokens? (text : List Char) : Option (List Token) :=
  (Lexer.start.feedAll text).bind Lexer.finish

end Xiangqi.Json
