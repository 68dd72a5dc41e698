import Xiangqi.Pattern.Bracket
import Xiangqi.Text.Alphanumeric

/-!
# Patterns

A pattern is a regular expression: alternatives of sequences of repeated parts, which are atoms,
sets and groups. Only its form is checked, part by part and from left to right. Flags that are set
inside a group hold from there to the end of the group. An opening brace would begin a count of
repetitions; a pattern is written inside the braces of a field and ends before they close, so a
count is never complete and an opening brace is a mistake.
-/

namespace Xiangqi.Pattern

/-- A part of a sequence: how deep it is nested, and whether it can be repeated. -/
structure Part where
  depth : Nat
  repeatable : Bool
deriving DecidableEq

/-- What has been read of a group: the depths of the alternatives before the last one, and the parts
of the last one, newest first. -/
structure Branches where
  earlier : List Nat
  parts : List Part
deriving DecidableEq

namespace Branches

/-- A group of which nothing has been read. -/
def start : Branches := ⟨[], []⟩

/-- Add a part to the last alternative. -/
def add (branches : Branches) (depth : Nat) (repeatable : Bool) : Branches :=
  { branches with parts := ⟨depth, repeatable⟩ :: branches.parts }

/-- The greatest of some depths. -/
def deepest (depths : List Nat) : Nat :=
  depths.foldl max 0

/-- The depth of the last alternative: a sequence of several parts goes one deeper. -/
def lastDepth (branches : Branches) : Nat :=
  match branches.parts with
  | [] => 0
  | [part] => part.depth
  | parts => deepest (parts.map Part.depth) + 1

/-- The depth of everything read: several alternatives go one deeper. -/
def depth (branches : Branches) : Nat :=
  if branches.earlier.isEmpty then branches.lastDepth
  else max (deepest branches.earlier) branches.lastDepth + 1

/-- Begin another alternative. -/
def alternate (branches : Branches) : Branches :=
  ⟨branches.lastDepth :: branches.earlier, []⟩

/-- Repeat the last part; fails if there is none that can be repeated. -/
def repeatLast? (branches : Branches) : Option Branches :=
  match branches.parts with
  | ⟨depth, true⟩ :: parts => some { branches with parts := ⟨depth + 1, true⟩ :: parts }
  | _ => none

end Branches

/-- A pattern while it is read: the flags in force, the innermost group, the groups around it with
the flags to go back to, and the names given to groups so far. -/
structure Reading where
  flags : Flags
  branches : Branches
  outer : List (Flags × Branches)
  names : List (List Char)
deriving DecidableEq

/-- What follows an opening parenthesis. -/
inductive Opening where
  /-- Flags for the rest of the group around. -/
  | flags (flags : Flags)
  /-- A group, with the flags inside it, and with a name if it has one. -/
  | group (inner : Flags) (name : Option (List Char))

/-- The text is the name of a group. -/
def isGroupName : List Char → Bool
  | [] => false
  | first :: rest =>
    (first == '_' || Text.isAlphabetic first) &&
      rest.all fun c => c == '_' || c == '.' || c == '[' || c == ']' || Text.isAlphanumeric c

/-- The letters are flags, each at most once, with at most one hyphen among them and none at the
end. -/
def areFlags (letters : List Char) : Bool :=
  letters.all (['i', 'm', 's', 'U', 'u', 'R', 'x', '-'].contains ·) &&
    letters.eraseDups.length == letters.length && letters.getLast? != some '-'

/-- The value of one flag: letters before the hyphen set flags, and those after it clear them. -/
def flagAfter (letters : List Char) (flag : Char) (before : Bool) : Bool :=
  if (letters.takeWhile (· != '-')).contains flag then true
  else if (letters.dropWhile (· != '-')).contains flag then false
  else before

/-- The flags after some letters have set and cleared them. -/
def Flags.change (flags : Flags) (letters : List Char) : Flags where
  caseless := flagAfter letters 'i' flags.caseless
  unicode := flagAfter letters 'u' flags.unicode
  spaced := flagAfter letters 'x' flags.spaced

/-- The opening of a named group, given the text behind the angle bracket. -/
def namedOpening? (flags : Flags) (text : List Char) : Option (Opening × List Char) :=
  let name := text.takeWhile (· != '>')
  match text.dropWhile (· != '>') with
  | _ :: rest => if isGroupName name then some (.group flags (some name), rest) else none
  | [] => none

/-- The opening with flags, given the text behind the question mark. -/
def flaggedOpening? (flags : Flags) (text : List Char) : Option (Opening × List Char) :=
  let letters := text.takeWhile fun c => c != ':' && c != ')'
  if areFlags letters then
    match text.dropWhile fun c => c != ':' && c != ')' with
    | ':' :: rest => some (.group (flags.change letters) none, rest)
    | _ :: rest => if letters.isEmpty then none else some (.flags (flags.change letters), rest)
    | [] => none
  else
    none

/-- What follows an opening parenthesis, and the text behind it. Groups that look ahead or behind
are refused: their marks are neither flags nor names. -/
def opening? (flags : Flags) (text : List Char) : Option (Opening × List Char) :=
  match skip flags text with
  | '?' :: 'P' :: '<' :: rest => namedOpening? flags rest
  | '?' :: '<' :: rest => namedOpening? flags rest
  | '?' :: rest => flaggedOpening? flags rest
  | others => some (.group flags none, others)

namespace Reading

/-- A pattern of which nothing has been read. -/
def start : Reading := ⟨{}, .start, [], []⟩

/-- Add a part to the innermost group. -/
def add (reading : Reading) (depth : Nat) : Reading :=
  { reading with branches := reading.branches.add depth true }

/-- Add an atom, if it is allowed here. -/
def addAtom? (reading : Reading) (atom : Atom) : Option Reading :=
  if atom.allowed reading.flags then some (reading.add 0) else none

/-- Enter a group, or take over flags. A name is given only once. -/
def enter? (reading : Reading) : Opening → Option Reading
  | .flags flags =>
    some { reading with flags := flags, branches := reading.branches.add 0 false }
  | .group inner name =>
    let names := name.toList ++ reading.names
    if name.any reading.names.contains then none
    else some ⟨inner, .start, (reading.flags, reading.branches) :: reading.outer, names⟩

/-- Leave the innermost group; fails if none is open. -/
def leave? (reading : Reading) : Option Reading :=
  match reading.outer with
  | [] => none
  | (flags, branches) :: outer =>
    some { reading with
      flags := flags
      branches := branches.add (reading.branches.depth + 1) true
      outer := outer }

/-- Read on, given the next character and the text behind it. -/
def step? (reading : Reading) (c : Char) (rest : List Char) : Option (Reading × List Char) :=
  if c = '(' then do
    let (opening, others) ← opening? reading.flags rest
    return (← reading.enter? opening, others)
  else if c = ')' then do
    return (← reading.leave?, rest)
  else if c = '|' then
    some ({ reading with branches := reading.branches.alternate }, rest)
  else if c = '[' then do
    let (depth, others) ← set? reading.flags rest
    return (reading.add depth, others)
  else if c = '?' ∨ c = '*' ∨ c = '+' then do
    let branches ← reading.branches.repeatLast?
    let others := if rest.head? = some '?' then rest.drop 1 else rest
    return ({ reading with branches := branches }, others)
  else if c = '\x7b' then
    none
  else if c = '\\' then do
    let (atom, others) ← escape? reading.flags rest
    return (← reading.addAtom? atom, others)
  else if c = '.' then do
    return (← reading.addAtom? .anyChar, rest)
  else if c = '^' ∨ c = '$' then do
    return (← reading.addAtom? .anchor, rest)
  else do
    return (← reading.addAtom? (.literal c false), rest)

/-- Read a text to its end. -/
def run? (reading : Reading) (text : List Char) : Option Reading :=
  match _ : skip reading.flags text with
  | [] => some reading
  | c :: rest =>
    match reading.step? c rest with
    | some (next, others) => if others.length ≤ rest.length then next.run? others else none
    | none => none
termination_by text.length
decreasing_by
  rename_i shape progress
  have shorter := length_skip_le reading.flags text
  rw [shape] at shorter
  exact Nat.lt_of_le_of_lt progress shorter

end Reading

/-- The depth to which a pattern may be nested. -/
def depthLimit : Nat := 250

/-- The text is a pattern: it can be read, all groups are closed, and it is not nested too deep. -/
def isPattern (text : List Char) : Bool :=
  match Reading.start.run? text with
  | some reading => reading.outer.isEmpty && reading.branches.depth ≤ depthLimit
  | none => false

end Xiangqi.Pattern
