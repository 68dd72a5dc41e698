import Xiangqi.Board.Diagram
import Xiangqi.Console.Command
import Xiangqi.Game

/-!
# The line protocol

A console plays one game at a time for a host that sends lines and reads lines. Every command is
answered by whole lines or by none; what a refused or malformed command leaves behind is the console
as it was. Only a broken board, or a start that is not allowed, ends the console itself.
-/

namespace Xiangqi

/-- What ends a console: a game that cannot be started, or a broken board. -/
inductive Failure where
  | setup (error : SetupError)
  | corrupt (corruption : Corruption)
deriving DecidableEq

/-- A host's settings and starting position, and the game that is being played. -/
structure Console where
  settings : Settings
  /-- The starting position; the standard opening if absent. -/
  placement : Option Placement
  game : Game
deriving DecidableEq

/-- The answer to one line: the lines written, the console afterwards, and whether it goes on. -/
structure Reply where
  lines : List String
  console : Console
  goesOn : Bool
deriving DecidableEq

/-- The text of a reply: every line ends with a line feed. -/
def Reply.text (reply : Reply) : String :=
  String.join (reply.lines.map (· ++ "\n"))

namespace Console

/-- A game from the starting position. -/
def newGame (settings : Settings) : Option Placement → Except SetupError Game
  | some placement => Game.ofPlacement placement settings
  | none => .ok (Game.opening settings)

/-- A console with a fresh game. -/
def start (settings : Settings) (placement : Option Placement) : Except SetupError Console := do
  let game ← newGame settings placement
  return ⟨settings, placement, game⟩

/-- The line that reports the status of a game: whose turn it is, or how it ended. -/
def statusLine (game : Game) : Except Corruption String :=
  match game.status with
  | .inProgress => do
    let check ← game.inCheck game.toMove
    return if check then s!"turn {game.toMove.name} check" else s!"turn {game.toMove.name}"
  | .over (some winner) => .ok s!"over {winner.name}"
  | .over none => .ok "over draw"

/-- The line of the history for the ply with the given number. -/
def historyLine (ply : Ply) (number : Nat) : String :=
  s!"{number} {ply.wxf} {(Move.mk ply.source ply.target).text}"

/-- The lines of the history. -/
def historyLines (game : Game) : List String :=
  (game.plies.zipIdx 1).map (fun (ply, number) => historyLine ply number) ++ ["end"]

/-- Answer with the given lines and leave everything as it is. -/
def say (console : Console) (lines : List String) : Reply :=
  ⟨lines, console, true⟩

/-- Go on with another game. -/
def withGame (console : Console) (game : Game) (lines : List String) : Reply :=
  ⟨lines, { console with game := game }, true⟩

/-- Report a corruption as the failure of the console. -/
def sound {α : Type} : Except Corruption α → Except Failure α
  | .ok value => .ok value
  | .error corruption => .error (.corrupt corruption)

/-- Answer an attempt to end the game. -/
def conclude (console : Console) : Except Refusal Game → Except Failure Reply
  | .ok game => do
    let line ← sound (statusLine game)
    return console.withGame game [line]
  | .error reason => .ok (console.say [s!"rejected {reason.message}"])

/-- Make a move and report it, and how the game ended if the move ended it. -/
def makeMove (console : Console) (source target : Square) : Except Failure Reply :=
  match console.game.play source target with
  | .ok (ply, game) => do
    let accepted := s!"ok {ply.wxf}"
    if game.status = .inProgress then
      return console.withGame game [accepted]
    else
      let line ← sound (statusLine game)
      return console.withGame game [accepted, line]
  | .error (.refused reason) => .ok (console.say [s!"rejected {reason.message}"])
  | .error (.corrupt corruption) => .error (.corrupt corruption)

/-- Carry out a command. -/
def perform (console : Console) : Command → Except Failure Reply
  | .newGame =>
    match newGame console.settings console.placement with
    | .ok game => .ok (console.withGame game ["ok"])
    | .error error => .error (.setup error)
  | .move source target => console.makeMove source target
  | .moves source => do
    let squares ← sound (console.game.destinations source)
    return console.say [String.join ("moves" :: squares.map (" " ++ ·.text))]
  | .status => do
    let line ← sound (statusLine console.game)
    return console.say [line]
  | .board => .ok (console.say (console.game.board.diagramLines.map String.ofList))
  | .history => .ok (console.say (historyLines console.game))
  | .resign => console.conclude console.game.resign
  | .draw => console.conclude console.game.agreeDraw
  | .quit => .ok ⟨[], console, false⟩

/-- Answer one line. -/
def respond (console : Console) (line : String) : Except Failure Reply :=
  match Command.ofLine line with
  | .ok (some command) => console.perform command
  | .ok none => .ok (console.say [])
  | .error complaint => .ok (console.say [s!"error {complaint.message}"])

/-- Answer lines until one of them ends the console, with the replies in order. Lines after that one
are not looked at. The failure that ended it, if any, comes last. -/
def session (console : Console) : List String → List Reply × Option Failure
  | [] => ([], none)
  | line :: rest =>
    match console.respond line with
    | .error failure => ([], some failure)
    | .ok reply =>
      if reply.goesOn then
        let (replies, failure) := reply.console.session rest
        (reply :: replies, failure)
      else
        ([reply], none)

end Console

end Xiangqi
