import Mathlib.Data.List.Basic
import Xiangqi.Console.Command
import Xiangqi.Proofs.Fallible

/-!
# What the words of a line spell

`Command.Spells` lists the forms that a line of input can have and what it is read as in each of
them: a command by itself, a command with squares, one of the ways to get the squares wrong, a word
that is no command, or nothing. Every line has one of these forms (`spells_ofWords`), so later
proofs go by cases on the form and do not open the reader.
-/

namespace Xiangqi.Command

open Fallible

/-- The words of a line of input. -/
def words (line : String) : List String :=
  (Text.words line.toList).map String.ofList

/-- The commands that take no squares and ignore what follows them, under their names. -/
def plain : List (String × Command) :=
  [("new", newGame), ("status", status), ("board", board), ("history", history),
    ("resign", resign), ("draw", draw), ("quit", quit)]

/-- A list of words, and the command or complaint that it is read as. -/
inductive Spells : List String → Except Complaint (Option Command) → Prop
  | blank : Spells [] (.ok none)
  | plain {name : String} {command : Command} (named : (name, command) ∈ plain)
      (rest : List String) : Spells (name :: rest) (.ok (some command))
  | move {first second : String} {source target : Square}
      (readFirst : Square.read first = .ok source) (readSecond : Square.read second = .ok target) :
      Spells ["move", first, second] (.ok (some (move source target)))
  | moveFromNowhere {first : String} (second : String) {error : SetupError}
      (astray : Square.read first = .error error) :
      Spells ["move", first, second] (.error (.badSquare error))
  | moveToNowhere {first second : String} {source : Square} {error : SetupError}
      (readFirst : Square.read first = .ok source) (astray : Square.read second = .error error) :
      Spells ["move", first, second] (.error (.badSquare error))
  | moveMiscounted {arguments : List String} (miscounted : arguments.length ≠ 2) :
      Spells ("move" :: arguments) (.error (.usage "move <row>,<col> <row>,<col>"))
  | moves {first : String} {source : Square} (readFirst : Square.read first = .ok source) :
      Spells ["moves", first] (.ok (some (moves source)))
  | movesFromNowhere {first : String} {error : SetupError}
      (astray : Square.read first = .error error) :
      Spells ["moves", first] (.error (.badSquare error))
  | movesMiscounted {arguments : List String} (miscounted : arguments.length ≠ 1) :
      Spells ("moves" :: arguments) (.error (.usage "moves <row>,<col>"))
  | unknown {word : String} (unnamed : word ∉ "move" :: "moves" :: plain.map Prod.fst)
      (rest : List String) : Spells (word :: rest) (.error (.unknown word))

/-- Every list of words spells what it is read as. -/
theorem spells_ofWords (words : List String) : Spells words (ofWords words) := by
  unfold ofWords
  split
  · exact .blank
  · exact .plain (by decide) _
  · split
    · rename_i first second
      cases readFirst : Square.read first with
      | error error =>
        simp only [squareOf, readFirst, bind, Except.bind]
        exact .moveFromNowhere second readFirst
      | ok source =>
        cases readSecond : Square.read second with
        | error error =>
          simp only [squareOf, readFirst, readSecond, bind, Except.bind]
          exact .moveToNowhere readFirst readSecond
        | ok target =>
          simp only [squareOf, readFirst, readSecond, bind, Except.bind]
          exact .move readFirst readSecond
    · rename_i arguments notTwo
      apply Spells.moveMiscounted
      intro two
      obtain ⟨first, second, rfl⟩ := List.length_eq_two.mp two
      exact notTwo first second rfl
  · split
    · rename_i first
      cases readFirst : Square.read first with
      | error error =>
        simp only [squareOf, readFirst, bind, Except.bind]
        exact .movesFromNowhere readFirst
      | ok source =>
        simp only [squareOf, readFirst, bind, Except.bind]
        exact .moves readFirst
    · rename_i arguments notOne
      apply Spells.movesMiscounted
      intro one
      obtain ⟨first, rfl⟩ := List.length_eq_one_iff.mp one
      exact notOne first rfl
  · exact .plain (by decide) _
  · exact .plain (by decide) _
  · exact .plain (by decide) _
  · exact .plain (by decide) _
  · exact .plain (by decide) _
  · exact .plain (by decide) _
  · apply Spells.unknown
    simp only [plain, List.map_cons, List.map_nil, List.mem_cons, List.not_mem_nil, or_false,
      not_or]
    refine ⟨?_, ?_, ?_, ?_, ?_, ?_, ?_, ?_, ?_⟩ <;> assumption

/-- Every plain command has one name. -/
theorem name_eq_of_mem_plain {name other : String} {command : Command}
    (named : (name, command) ∈ plain) (also : (other, command) ∈ plain) : name = other := by
  have single : ∀ first ∈ plain, ∀ second ∈ plain, first.2 = second.2 → first.1 = second.1 := by
    decide
  exact single _ named _ also rfl

/-- A plain command is read off the first word; what follows is ignored. -/
theorem ofWords_of_plain {name : String} {command : Command} (named : (name, command) ∈ plain)
    (rest : List String) : ofWords (name :: rest) = .ok (some command) := by
  simp only [plain, List.mem_cons, List.not_mem_nil, or_false, Prod.mk.injEq] at named
  rcases named with ⟨rfl, rfl⟩ | ⟨rfl, rfl⟩ | ⟨rfl, rfl⟩ | ⟨rfl, rfl⟩ | ⟨rfl, rfl⟩ | ⟨rfl, rfl⟩ |
    ⟨rfl, rfl⟩
  all_goals rfl

/-- A line asks to quit exactly if its first word is `quit`; what follows is ignored. -/
theorem ofWords_eq_quit_iff {words : List String} :
    ofWords words = .ok (some quit) ↔ words.head? = some "quit" := by
  constructor
  · intro read
    have spells := spells_ofWords words
    rw [read] at spells
    cases spells with
    | plain named rest =>
      have quits : ("quit", quit) ∈ plain := by decide
      rw [name_eq_of_mem_plain named quits, List.head?_cons]
  · intro quits
    obtain ⟨rest, rfl⟩ := List.head?_eq_some_iff.mp quits
    rfl

end Xiangqi.Command
