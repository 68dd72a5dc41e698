import Xiangqi.Square.Reader

/-!
# Commands of the line protocol

A line is split into words; the first names the command and the others are its arguments. Commands
that take squares want exactly the right number of them; other commands ignore what follows. A line
without words is no command.
-/

namespace Xiangqi

/-- What a host may ask for. -/
inductive Command where
  | newGame
  | move (source target : Square)
  | moves (source : Square)
  | status
  | board
  | history
  | resign
  | draw
  | quit
deriving DecidableEq

/-- Why a line is not understood. -/
inductive Complaint where
  /-- The number of arguments is wrong; the right form follows. -/
  | usage (form : String)
  /-- An argument names no square. -/
  | badSquare (error : SetupError)
  | unknown (word : String)
deriving DecidableEq

/-- The wording of a complaint. -/
def Complaint.message : Complaint → String
  | usage form => s!"usage: {form}"
  | badSquare error => error.message
  | unknown word => s!"unknown command '{word}'"

namespace Command

/-- The square that an argument names. -/
def squareOf (word : String) : Except Complaint Square :=
  match Square.read word with
  | .ok sq => .ok sq
  | .error error => .error (.badSquare error)

/-- The command that the words of a line spell; the first bad argument is the complaint. -/
def ofWords : List String → Except Complaint (Option Command)
  | [] => .ok none
  | "new" :: _ => .ok (some newGame)
  | "move" :: arguments =>
    match arguments with
    | [first, second] => do
      let source ← squareOf first
      let target ← squareOf second
      return some (move source target)
    | _ => .error (.usage "move <row>,<col> <row>,<col>")
  | "moves" :: arguments =>
    match arguments with
    | [first] => do
      let source ← squareOf first
      return some (moves source)
    | _ => .error (.usage "moves <row>,<col>")
  | "status" :: _ => .ok (some status)
  | "board" :: _ => .ok (some board)
  | "history" :: _ => .ok (some history)
  | "resign" :: _ => .ok (some resign)
  | "draw" :: _ => .ok (some draw)
  | "quit" :: _ => .ok (some quit)
  | word :: _ => .error (.unknown word)

/-- The command that a line spells. -/
def ofLine (line : String) : Except Complaint (Option Command) :=
  ofWords ((Text.words line.toList).map String.ofList)

end Command

end Xiangqi
