import Xiangqi.Text.Blank
import Xiangqi.Text.Numeral

/-!
# Characters and escapes of patterns

A pattern is a regular expression against which values are matched. This module says which single
characters and escapes it is made of and which of them are allowed. Patterns come without the tables
of Unicode: classes such as `\d`, word boundaries and matching in either case need Unicode to be
switched off. With Unicode switched off, on the other hand, nothing may match a part of a character,
so all that stands for bytes has to stay below 128.
-/

namespace Xiangqi.Pattern

/-- The switches in force at a place of a pattern. -/
structure Flags where
  /-- Letters match in either case. -/
  caseless : Bool := false
  /-- Characters are those of Unicode, not bytes. -/
  unicode : Bool := true
  /-- White space and comments are skipped. -/
  spaced : Bool := false
deriving DecidableEq

/-- Without white space and comments in front. The switch says that a comment has begun; it goes on
to the end of the line. -/
def skipSpace : Bool → List Char → List Char
  | _, [] => []
  | true, c :: rest => skipSpace (c != '\n') rest
  | false, c :: rest =>
    if Text.isBlank c then skipSpace false rest
    else if c == '#' then skipSpace true rest
    else c :: rest

/-- Without what the flags say is to be skipped. -/
def skip (flags : Flags) (text : List Char) : List Char :=
  if flags.spaced then skipSpace false text else text

theorem length_skipSpace_le (inComment : Bool) (text : List Char) :
    (skipSpace inComment text).length ≤ text.length := by
  induction text generalizing inComment with
  | nil => cases inComment <;> exact Nat.le_refl _
  | cons c rest ih =>
    cases inComment with
    | true => exact Nat.le_succ_of_le (ih _)
    | false =>
      simp only [skipSpace]
      split
      · exact Nat.le_succ_of_le (ih _)
      · split
        · exact Nat.le_succ_of_le (ih _)
        · exact Nat.le_refl _

theorem length_skip_le (flags : Flags) (text : List Char) :
    (skip flags text).length ≤ text.length := by
  unfold skip
  split
  · exact length_skipSpace_le false text
  · exact Nat.le_refl _

/-- The smallest thing that a pattern matches. -/
inductive Atom where
  /-- A character; `isByte` says that it was given by two hexadecimal digits. -/
  | literal (value : Char) (isByte : Bool)
  | anyChar
  /-- Digits, white space or the characters of words, or all others. -/
  | sort (negated : Bool)
  | wordBoundary
  /-- The start or the end of a line or of the text. -/
  | anchor
deriving DecidableEq

/-- Whether the atom may stand in a pattern by itself. -/
def Atom.allowed (flags : Flags) : Atom → Bool
  | literal value isByte => if flags.unicode then !flags.caseless else !isByte || value.toNat < 128
  | anyChar => flags.unicode
  | sort negated => !flags.unicode && !negated
  | wordBoundary => !flags.unicode
  | anchor => true

/-- Whether the atom may be an element of a set. -/
def Atom.allowedInSet (flags : Flags) : Atom → Bool
  | literal value _ => if flags.unicode then !flags.caseless else value.toNat < 128
  | sort negated => !flags.unicode && !negated
  | anyChar | wordBoundary | anchor => false

/-- The value of so many hexadecimal digits, continuing from the digits read so far, and the text
behind them. -/
def hexDigits? (flags : Flags) : Nat → Nat → List Char → Option (Nat × List Char)
  | 0, value, text => some (value, text)
  | missing + 1, value, text =>
    match skip flags text with
    | [] => none
    | c :: rest =>
      (Text.hexDigit? c).bind fun digit => hexDigits? flags missing (16 * value + digit) rest

/-- The character that so many hexadecimal digits give. -/
def hexLiteral? (flags : Flags) (count : Nat) (text : List Char) : Option (Atom × List Char) := do
  let (code, rest) ← hexDigits? flags count 0 text
  let value ← Text.scalar? code
  return (.literal value (count == 2), rest)

/-- The character stands for itself behind a backslash: ASCII, and neither a letter or digit nor one
of the two marks of word boundaries. -/
def isEscapable (c : Char) : Bool :=
  c.toNat < 128 && !c.isAlphanum && c != '<' && c != '>'

/-- The atom of an escape, given the text behind the backslash, and the text behind the escape.
Digits are refused since they would refer back to a group, and properties of characters since they
need the tables of Unicode. -/
def escape? (flags : Flags) : List Char → Option (Atom × List Char)
  | [] => none
  | 'x' :: rest => hexLiteral? flags 2 rest
  | 'u' :: rest => hexLiteral? flags 4 rest
  | 'U' :: rest => hexLiteral? flags 8 rest
  | 'a' :: rest => some (.literal '\x07' false, rest)
  | 't' :: rest => some (.literal '\t' false, rest)
  | 'n' :: rest => some (.literal '\n' false, rest)
  | 'v' :: rest => some (.literal '\x0b' false, rest)
  | 'f' :: rest => some (.literal '\x0c' false, rest)
  | 'r' :: rest => some (.literal '\r' false, rest)
  | 'A' :: rest => some (.anchor, rest)
  | 'z' :: rest => some (.anchor, rest)
  | 'b' :: '\x7b' :: _ => none
  | 'b' :: rest => some (.wordBoundary, rest)
  | 'B' :: rest => some (.wordBoundary, rest)
  | '<' :: rest => some (.wordBoundary, rest)
  | '>' :: rest => some (.wordBoundary, rest)
  | c :: rest =>
    if c = 'd' ∨ c = 's' ∨ c = 'w' then some (.sort false, rest)
    else if c = 'D' ∨ c = 'S' ∨ c = 'W' then some (.sort true, rest)
    else if isEscapable c then some (.literal c false, rest)
    else none

end Xiangqi.Pattern
