import Xiangqi.Pattern.Atom

/-!
# Sets of characters in patterns

A set is written in brackets: elements, ranges, named sets and further sets in brackets, joined by
the operators `&&`, `--` and `~~`. A caret in front takes the complement. Hyphens directly after the
opening are elements, and so is a closing bracket there. The result of reading a set is the depth to
which it is nested, since patterns are limited in that.
-/

namespace Xiangqi.Pattern

/-- What has been read of a set: how deep that which stands before the last operator is nested, how
many elements have come since, and the deepest of them. -/
structure Bracket where
  left : Option Nat
  count : Nat
  depth : Nat
deriving DecidableEq

namespace Bracket

/-- The set with another element. -/
def add (bracket : Bracket) (depth : Nat) : Bracket :=
  { bracket with count := bracket.count + 1, depth := max bracket.depth depth }

/-- The depth of everything read: a union of several elements, and an operator, go one deeper. -/
def contentDepth (bracket : Bracket) : Nat :=
  let union := if bracket.count ≤ 1 then bracket.depth else bracket.depth + 1
  match bracket.left with
  | none => union
  | some left => max left union + 1

/-- The set after an operator: what was read becomes its left side. -/
def operate (bracket : Bracket) : Bracket :=
  ⟨some bracket.contentDepth, 0, 0⟩

end Bracket

/-- The names of sets. -/
def setNames : List String :=
  ["alnum", "alpha", "ascii", "blank", "cntrl", "digit", "graph", "lower", "print", "punct",
    "space", "upper", "word", "xdigit"]

/-- A named set, given the text behind its opening bracket: whether it is negated, and the text
behind it. -/
def namedSet? : List Char → Option (Bool × List Char)
  | ':' :: text =>
    let negated := text.head? == some '^'
    let body := if negated then text.drop 1 else text
    match body.dropWhile (· != ':') with
    | ':' :: ']' :: rest =>
      if setNames.contains (String.ofList (body.takeWhile (· != ':'))) then some (negated, rest)
      else none
    | _ => none
  | _ => none

/-- Whether a named set may stand here. -/
def namedSetAllowed (flags : Flags) (negated : Bool) : Bool :=
  if flags.unicode then !flags.caseless else !negated

/-- Whether a hyphen or bracket that is an element may stand here. -/
def plainAllowed (flags : Flags) : Bool :=
  !(flags.unicode && flags.caseless)

/-- Take hyphens as elements, as long as they come. -/
def leadingHyphens (flags : Flags) (bracket : Bracket) (text : List Char) : Bracket × List Char :=
  match _ : skip flags text with
  | '-' :: rest => leadingHyphens flags (bracket.add 0) rest
  | others => (bracket, others)
termination_by text.length
decreasing_by
  rename_i shape
  have shorter := length_skip_le flags text
  rw [shape] at shorter
  exact shorter

/-- Open a set, given the text behind the bracket. -/
def openSet? (flags : Flags) (text : List Char) : Option (Bracket × List Char) := do
  let text := skip flags text
  let negated := text.head? == some '^'
  if negated && !flags.unicode then failure
  let (bracket, rest) := leadingHyphens flags ⟨none, 0, 0⟩ (if negated then text.drop 1 else text)
  let (bracket, rest) := match rest with
    | ']' :: others => if bracket.count = 0 then (bracket.add 0, others) else (bracket, rest)
    | _ => (bracket, rest)
  if bracket.count ≠ 0 && !plainAllowed flags then failure
  return (bracket, rest)

/-- The atom at the beginning of a text, and the text behind it. -/
def setAtom? (flags : Flags) : List Char → Option (Atom × List Char)
  | [] => none
  | '\\' :: rest => escape? flags rest
  | c :: rest => some (.literal c false, rest)

/-- The character that follows a hyphen. Of the comments that are skipped only the mark is. -/
def afterHyphen? (flags : Flags) (text : List Char) : Option Char :=
  if flags.spaced then
    match text.dropWhile Text.isBlank with
    | '#' :: comment => (comment.dropWhile Text.isBlank).head?
    | others => others.head?
  else
    text.head?

/-- Read an element or a range; the result is the text behind it. -/
def element? (flags : Flags) (text : List Char) : Option (List Char) := do
  let (first, rest) ← setAtom? flags text
  if !first.allowedInSet flags then failure
  match skip flags rest with
  | '-' :: others =>
    let next := afterHyphen? flags others
    if next = some ']' || next = some '-' then
      return '-' :: others
    else
      let (last, behind) ← setAtom? flags (skip flags others)
      if !last.allowedInSet flags then failure
      match first, last with
      | .literal low _, .literal high _ => if low ≤ high then return behind else failure
      | _, _ => failure
  | others => return others

/-- What reading on in a set has led to. -/
inductive SetStep where
  | inside (bracket : Bracket) (outer : List Bracket) (rest : List Char)
  | closed (depth : Nat) (rest : List Char)

/-- Read on in the innermost open set, given the next character and the text behind it. -/
def setStep? (flags : Flags) (bracket : Bracket) (outer : List Bracket) (c : Char)
    (rest : List Char) : Option SetStep :=
  match c, rest with
  | '[', _ =>
    match namedSet? rest with
    | some (negated, others) =>
      if namedSetAllowed flags negated then some (.inside (bracket.add 0) outer others) else none
    | none =>
      (openSet? flags rest).map fun (inner, others) => .inside inner (bracket :: outer) others
  | ']', _ =>
    let depth := bracket.contentDepth + 1
    match outer with
    | [] => some (.closed depth rest)
    | around :: others => some (.inside (around.add depth) others rest)
  | '&', '&' :: others => some (.inside bracket.operate outer others)
  | '-', '-' :: others => some (.inside bracket.operate outer others)
  | '~', '~' :: others => some (.inside bracket.operate outer others)
  | _, _ => (element? flags (c :: rest)).map fun others => .inside (bracket.add 0) outer others

/-- Read to the end of the outermost open set. -/
def restOfSet? (flags : Flags) (bracket : Bracket) (outer : List Bracket) (text : List Char) :
    Option (Nat × List Char) :=
  match _ : skip flags text with
  | [] => none
  | c :: rest =>
    match setStep? flags bracket outer c rest with
    | some (.inside bracket outer others) =>
      if others.length ≤ rest.length then restOfSet? flags bracket outer others else none
    | some (.closed depth others) => some (depth, others)
    | none => none
termination_by text.length
decreasing_by
  rename_i shape progress
  have shorter := length_skip_le flags text
  rw [shape] at shorter
  exact Nat.lt_of_le_of_lt progress shorter

/-- Read a set, given the text behind its opening bracket: how deep it is nested, and the text
behind it. -/
def set? (flags : Flags) (text : List Char) : Option (Nat × List Char) := do
  let (bracket, rest) ← openSet? flags text
  restOfSet? flags bracket [] rest

end Xiangqi.Pattern
