import Xiangqi.Text.Numeral

/-!
# Tokens of settings texts

Settings are written in TOML. A text is cut into tokens by a machine that reads one character at a
time; white space and comments give no token, line ends do. A line ends with a line feed, which may
have a carriage return before it; a carriage return elsewhere is an error, and so are other control
characters. Strings come in four forms: quoted once, on one line, or quoted three times, over any
number of lines; with `"`, where a backslash escapes, or with `'`, where it does not.
-/

namespace Xiangqi.Toml

/-- A token. -/
inductive Token where
  /-- A run of letters, digits, hyphens and underscores. -/
  | word (chars : List Char)
  | text (value : String) (multiline : Bool)
  | equals
  | dot
  | comma
  | openBracket
  | closeBracket
  | openBrace
  | closeBrace
  | lineEnd
deriving DecidableEq

/-- How a string is quoted. -/
inductive Quote where
  | basic
  | literal
deriving DecidableEq

/-- The quotation mark. -/
def Quote.mark : Quote → Char
  | .basic => '"'
  | .literal => '\''

/-- The character may stand in a key without quotation marks. -/
def isBare (c : Char) : Bool :=
  c.isAlphanum || c == '-' || c == '_'

/-- White space within a line. -/
def isSpace (c : Char) : Bool :=
  c == ' ' || c == '\t'

/-- The character may stand as itself in strings and comments: no control character but the tab. -/
def isPlain (c : Char) : Bool :=
  c == '\t' || (0x20 ≤ c.toNat && c.toNat != 0x7F)

/-- The token that a punctuation character is. -/
def punctuation? : Char → Option Token
  | '=' => some .equals
  | '.' => some .dot
  | ',' => some .comma
  | '[' => some .openBracket
  | ']' => some .closeBracket
  | '\x7b' => some .openBrace
  | '\x7d' => some .closeBrace
  | _ => none

/-- The character that a one-letter escape stands for. -/
def escaped? : Char → Option Char
  | 'b' => some '\x08'
  | 't' => some '\t'
  | 'n' => some '\n'
  | 'f' => some '\x0c'
  | 'r' => some '\r'
  | '"' => some '"'
  | '\\' => some '\\'
  | _ => none

/-- Where the machine stands. The characters of an unfinished word or string are kept newest first.
A string is `block` if it is quoted three times. -/
inductive Mode where
  | between
  | word (chars : List Char)
  | comment
  /-- After a carriage return, which has to belong to a line end. -/
  | cr
  /-- After one opening quotation mark. -/
  | quote (quote : Quote)
  /-- After two opening quotation marks. -/
  | quotes (quote : Quote)
  | line (quote : Quote) (chars : List Char)
  /-- `fresh` holds directly after the opening marks, where a line end does not count. -/
  | block (quote : Quote) (chars : List Char) (fresh : Bool)
  | blockCr (quote : Quote) (chars : List Char) (fresh : Bool)
  /-- After a run of quotation marks inside a block. -/
  | blockQuotes (quote : Quote) (chars : List Char) (count : Nat)
  | escape (chars : List Char) (block : Bool)
  /-- In an escape by code point, with so many digits to come. -/
  | code (chars : List Char) (block : Bool) (missing : Nat) (value : Nat)
  /-- After a backslash that joins lines; `broken` holds once the line has ended. -/
  | joining (chars : List Char) (broken : Bool)
  | joiningCr (chars : List Char)
deriving DecidableEq

/-- The machine: the tokens so far, newest first, and where it stands. -/
structure Lexer where
  tokens : List Token
  mode : Mode
deriving DecidableEq

namespace Lexer

/-- The machine before the first character. -/
def start : Lexer := ⟨[], .between⟩

/-- Add a token, and go on between tokens. -/
def emit (lexer : Lexer) (token : Token) : Lexer :=
  ⟨token :: lexer.tokens, .between⟩

/-- Add the string whose characters are given newest first. -/
def emitText (lexer : Lexer) (chars : List Char) (multiline : Bool) : Lexer :=
  lexer.emit (.text (String.ofList chars.reverse) multiline)

/-- Go on elsewhere. -/
def goTo (lexer : Lexer) (mode : Mode) : Lexer :=
  { lexer with mode := mode }

/-- Read a character between tokens. -/
def between (lexer : Lexer) (c : Char) : Option Lexer :=
  if isSpace c then some (lexer.goTo .between)
  else if c = '\n' then some (lexer.emit .lineEnd)
  else if c = '\r' then some (lexer.goTo .cr)
  else if c = '#' then some (lexer.goTo .comment)
  else if c = '"' then some (lexer.goTo (.quote .basic))
  else if c = '\'' then some (lexer.goTo (.quote .literal))
  else if isBare c then some (lexer.goTo (.word [c]))
  else (punctuation? c).map lexer.emit

/-- Read a character of a string on one line. -/
def inLine (lexer : Lexer) (quote : Quote) (chars : List Char) (c : Char) : Option Lexer :=
  if c = quote.mark then some (lexer.emitText chars false)
  else if quote = .basic ∧ c = '\\' then some (lexer.goTo (.escape chars false))
  else if isPlain c then some (lexer.goTo (.line quote (c :: chars)))
  else none

/-- A line end inside a block; the one directly after the opening marks does not count. -/
def lineEndInBlock (lexer : Lexer) (quote : Quote) (chars : List Char) (fresh : Bool) : Lexer :=
  lexer.goTo (.block quote (if fresh then chars else '\n' :: chars) false)

/-- Read a character of a block. -/
def inBlock (lexer : Lexer) (quote : Quote) (chars : List Char) (fresh : Bool) (c : Char) :
    Option Lexer :=
  if c = quote.mark then some (lexer.goTo (.blockQuotes quote chars 1))
  else if quote = .basic ∧ c = '\\' then some (lexer.goTo (.escape chars true))
  else if c = '\n' then some (lexer.lineEndInBlock quote chars fresh)
  else if c = '\r' then some (lexer.goTo (.blockCr quote chars fresh))
  else if isPlain c then some (lexer.goTo (.block quote (c :: chars) false))
  else none

/-- Go on in a string after an escape. -/
def afterEscape (lexer : Lexer) (chars : List Char) (block : Bool) : Lexer :=
  lexer.goTo (if block then .block .basic chars false else .line .basic chars)

/-- Read the character after a backslash. Only a block may be continued on another line. -/
def inEscape (lexer : Lexer) (chars : List Char) (block : Bool) (c : Char) : Option Lexer :=
  if c = 'u' then some (lexer.goTo (.code chars block 4 0))
  else if c = 'U' then some (lexer.goTo (.code chars block 8 0))
  else if block ∧ isSpace c then some (lexer.goTo (.joining chars false))
  else if block ∧ c = '\n' then some (lexer.goTo (.joining chars true))
  else if block ∧ c = '\r' then some (lexer.goTo (.joiningCr chars))
  else (escaped? c).map fun value => lexer.afterEscape (value :: chars) block

/-- Read one character; fails on a character that cannot stand there. Of a run of quotation marks in
a block, three close it and up to two before these belong to it. -/
def feed (lexer : Lexer) (c : Char) : Option Lexer :=
  match lexer.mode with
  | .between => lexer.between c
  | .word chars =>
    if isBare c then some (lexer.goTo (.word (c :: chars)))
    else (lexer.emit (.word chars.reverse)).between c
  | .comment =>
    if c = '\n' then some (lexer.emit .lineEnd)
    else if c = '\r' then some (lexer.goTo .cr)
    else if isPlain c then some lexer
    else none
  | .cr => if c = '\n' then some (lexer.emit .lineEnd) else none
  | .quote quote =>
    if c = quote.mark then some (lexer.goTo (.quotes quote)) else lexer.inLine quote [] c
  | .quotes quote =>
    if c = quote.mark then some (lexer.goTo (.block quote [] true))
    else (lexer.emitText [] false).between c
  | .line quote chars => lexer.inLine quote chars c
  | .block quote chars fresh => lexer.inBlock quote chars fresh c
  | .blockCr quote chars fresh =>
    if c = '\n' then some (lexer.lineEndInBlock quote chars fresh) else none
  | .blockQuotes quote chars count =>
    if c = quote.mark then
      if count < 4 then some (lexer.goTo (.blockQuotes quote chars (count + 1)))
      else some (lexer.emitText (List.replicate 2 quote.mark ++ chars) true)
    else if count < 3 then
      lexer.inBlock quote (List.replicate count quote.mark ++ chars) false c
    else
      (lexer.emitText (List.replicate (count - 3) quote.mark ++ chars) true).between c
  | .escape chars block => lexer.inEscape chars block c
  | .code chars block missing value =>
    (Text.hexDigit? c).bind fun digit =>
      if missing ≤ 1 then
        (Text.scalar? (16 * value + digit)).map fun char => lexer.afterEscape (char :: chars) block
      else
        some (lexer.goTo (.code chars block (missing - 1) (16 * value + digit)))
  | .joining chars broken =>
    if isSpace c then some lexer
    else if c = '\n' then some (lexer.goTo (.joining chars true))
    else if c = '\r' then some (lexer.goTo (.joiningCr chars))
    else if broken then lexer.inBlock .basic chars false c
    else none
  | .joiningCr chars => if c = '\n' then some (lexer.goTo (.joining chars true)) else none

/-- Read a run of characters. -/
def feedAll (lexer : Lexer) : List Char → Option Lexer
  | [] => some lexer
  | c :: rest => (lexer.feed c).bind fun next => next.feedAll rest

/-- The tokens in order, once the text has ended; strings have to be closed by then. -/
def finish (lexer : Lexer) : Option (List Token) :=
  match lexer.mode with
  | .between | .comment => some lexer.tokens.reverse
  | .word chars => some (lexer.emit (.word chars.reverse)).tokens.reverse
  | .quotes _ => some (lexer.emitText [] false).tokens.reverse
  | .blockQuotes quote chars count =>
    if count < 3 then none
    else some (lexer.emitText (List.replicate (count - 3) quote.mark ++ chars) true).tokens.reverse
  | _ => none

theorem feedAll_append (lexer : Lexer) (first second : List Char) :
    lexer.feedAll (first ++ second) =
      (lexer.feedAll first).bind fun next => next.feedAll second := by
  induction first generalizing lexer with
  | nil => rfl
  | cons c rest ih =>
    simp only [List.cons_append, feedAll]
    cases lexer.feed c with
    | none => rfl
    | some next => exact ih next

end Lexer

/-- The tokens of a text, if it can be cut into tokens; a byte order mark in front is skipped. -/
def tokens? (text : List Char) : Option (List Token) :=
  let body := match text with
    | '\ufeff' :: rest => rest
    | _ => text
  (Lexer.start.feedAll body).bind Lexer.finish

end Xiangqi.Toml
