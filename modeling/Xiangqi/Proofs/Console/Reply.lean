import Xiangqi.Console
import Xiangqi.Proofs.Console.Command
import Xiangqi.Proofs.Run

/-!
# Replies of a console

A console can fail in three places: a new game might not start, a square might not be listed, and a
status or a move might find the board broken. None of them happens to a console that has been
started, whatever lines it is given: its starting position was accepted once, and its game is one
that a run leads to (`Console.Plays`), so it is sound. `Console.Performed` says all that a command
can do then.
-/

namespace Xiangqi

open Fallible

/-- How a command ends a game when the given side is to move: the winner, or nobody for a draw. -/
def Command.conclusion? (toMove : Side) : Command → Option (Option Side)
  | .resign => some (some toMove.opponent)
  | .draw => some none
  | _ => none

/-- The line that reports the status of a sound game. -/
def Game.statusText (game : Game) : String :=
  match game.status with
  | .inProgress =>
    if game.board.inDanger game.toMove then s!"turn {game.toMove.name} check"
    else s!"turn {game.toMove.name}"
  | .over (some winner) => s!"over {winner.name}"
  | .over none => "over draw"

theorem Game.Sound.exists_destinations {game : Game} (sound : game.Sound) (source : Square) :
    ∃ squares, game.destinations source = .ok squares := by
  cases stands : game.board.pieceOn source with
  | none => exact ⟨[], by rw [destinations, Board.destinations, stands]⟩
  | some piece => exact ⟨_, sound.destinations_eq stands⟩

namespace Console

/-- The console's game is what a run leads to from its starting position. -/
def Plays (console : Console) : Prop :=
  ∃ start actions, newGame console.settings console.placement = .ok start ∧
    console.game = start.run actions

/-- All that a command can do: the reply to it, one case for each outcome. -/
inductive Performed (console : Console) : Command → Reply → Prop
  | newGame {game : Game} (begun : newGame console.settings console.placement = .ok game) :
      Performed console .newGame (console.withGame game ["ok"])
  | moved {source target : Square} {ply : Ply} {game : Game}
      (played : console.game.play source target = .ok (ply, game))
      (live : game.status = .inProgress) :
      Performed console (.move source target) (console.withGame game [s!"ok {ply.wxf}"])
  | decided {source target : Square} {ply : Ply} {game : Game}
      (played : console.game.play source target = .ok (ply, game))
      (finished : game.status ≠ .inProgress) :
      Performed console (.move source target)
        (console.withGame game [s!"ok {ply.wxf}", game.statusText])
  | refused {source target : Square} {reason : Refusal}
      (refused : console.game.play source target = .error (.refused reason)) :
      Performed console (.move source target) (console.say [s!"rejected {reason.message}"])
  | moves {source : Square} {squares : List Square}
      (listed : console.game.destinations source = .ok squares) :
      Performed console (.moves source)
        (console.say [String.join ("moves" :: squares.map (" " ++ ·.text))])
  | status : Performed console .status (console.say [console.game.statusText])
  | board :
      Performed console .board (console.say (console.game.board.diagramLines.map String.ofList))
  | history : Performed console .history (console.say (historyLines console.game))
  | concluded {command : Command} {winner : Option Side} {game : Game}
      (concludes : command.conclusion? console.game.toMove = some winner)
      (finished : console.game.finish winner = .ok game) :
      Performed console command (console.withGame game [game.statusText])
  | tooLate {command : Command} {winner : Option Side} {reason : Refusal}
      (concludes : command.conclusion? console.game.toMove = some winner)
      (refused : console.game.finish winner = .error reason) :
      Performed console command (console.say [s!"rejected {reason.message}"])
  | quit : Performed console .quit ⟨[], console, false⟩

/-- The reply to what a line is read as: nothing, a complaint, or the reply to a command. -/
inductive Answered (console : Console) : Except Complaint (Option Command) → Reply → Prop
  | blank : Answered console (.ok none) (console.say [])
  | complaint (complaint : Complaint) :
      Answered console (.error complaint) (console.say [s!"error {complaint.message}"])
  | command {command : Command} {reply : Reply} (performed : console.Performed command reply) :
      Answered console (.ok (some command)) reply

/-- The console after a list of lines. Each of them is answered, also after one that asked to quit.
-/
def after (console : Console) (lines : List String) : Except Failure Console :=
  lines.foldlM (fun console line => do return (← console.respond line).console) console

variable {console : Console} {reply : Reply} {game : Game}

theorem begun_of_newGame {settings : Settings} {placement : Option Placement}
    (started : newGame settings placement = .ok game) : game.Begun := by
  cases placement with
  | none =>
    rw [newGame, Except.ok.injEq] at started
    exact started ▸ .opening settings
  | some placement => exact .ofPlacement started

theorem Plays.sound (plays : console.Plays) : console.game.Sound := by
  obtain ⟨start, actions, started, same⟩ := plays
  rw [same]
  exact (begun_of_newGame started).sound.run actions

/-- A console goes on to play when its game takes an action. -/
theorem Plays.act (plays : console.Plays) {action : Game.Action} {answer : Game.Answer}
    (acted : console.game.act action = (answer, game)) (lines : List String) :
    (console.withGame game lines).console.Plays := by
  obtain ⟨start, actions, started, same⟩ := plays
  refine ⟨start, actions ++ [action], started, ?_⟩
  rw [Game.run_append, ← same, Game.run_cons, Game.run_nil, acted]
  rfl

theorem plays_of_start {settings : Settings} {placement : Option Placement}
    (started : start settings placement = .ok console) : console.Plays := by
  obtain ⟨game, begun, returned⟩ := bind_eq_ok_iff.mp started
  cases returned
  exact ⟨game, [], begun, rfl⟩

theorem statusLine_eq (sound : game.Sound) : statusLine game = .ok game.statusText := by
  unfold statusLine Game.statusText
  -- Going on, drawn, or won by one side.
  rcases game.status with _ | _ | side
  · simp only [sound.inCheck_eq, bind, Except.bind, pure, Except.pure]
  · rfl
  · rfl

theorem Plays.makeMove (plays : console.Plays) (source target : Square) :
    ∃ reply, console.makeMove source target = .ok reply ∧
      console.Performed (.move source target) reply := by
  unfold Console.makeMove
  cases played : console.game.play source target with
  | ok made =>
    obtain ⟨ply, game⟩ := made
    by_cases live : game.status = .inProgress
    · simp only [if_pos live]
      exact ⟨_, rfl, .moved played live⟩
    · simp only [if_neg live, statusLine_eq (plays.sound.of_play played)]
      exact ⟨_, rfl, .decided played live⟩
  | error error =>
    obtain ⟨reason, -, rfl⟩ := plays.sound.play_eq_error_iff.mp played
    exact ⟨_, rfl, .refused played⟩

theorem Plays.conclude (plays : console.Plays) {command : Command} {winner : Option Side}
    (concludes : command.conclusion? console.game.toMove = some winner) :
    ∃ reply, console.conclude (console.game.finish winner) = .ok reply ∧
      console.Performed command reply := by
  cases finished : console.game.finish winner with
  | ok game =>
    obtain ⟨action, acted⟩ := Game.exists_act_of_finish finished
    have sound : game.Sound := (plays.act acted []).sound
    refine ⟨_, ?_, .concluded concludes finished⟩
    simp only [Console.conclude, statusLine_eq sound, Console.sound, bind, Except.bind, pure,
      Except.pure]
  | error reason => exact ⟨_, rfl, .tooLate concludes finished⟩

/-- A console that plays carries out every command. -/
theorem Plays.perform (plays : console.Plays) (command : Command) :
    ∃ reply, console.perform command = .ok reply ∧ console.Performed command reply := by
  cases command with
  | newGame =>
    obtain ⟨start, actions, begun, -⟩ := plays
    refine ⟨console.withGame start ["ok"], ?_, .newGame begun⟩
    simp only [Console.perform, begun]
  | move source target => exact plays.makeMove source target
  | moves source =>
    obtain ⟨squares, listed⟩ := plays.sound.exists_destinations source
    refine ⟨_, ?_, .moves listed⟩
    simp only [Console.perform, listed, Console.sound, bind, Except.bind, pure, Except.pure]
  | status =>
    refine ⟨_, ?_, .status⟩
    simp only [Console.perform, statusLine_eq plays.sound, Console.sound, bind, Except.bind, pure,
      Except.pure]
  | board => exact ⟨_, rfl, .board⟩
  | history => exact ⟨_, rfl, .history⟩
  | resign =>
    have concludes : Command.resign.conclusion? console.game.toMove =
        some (some console.game.toMove.opponent) := rfl
    exact plays.conclude concludes
  | draw =>
    have concludes : Command.draw.conclusion? console.game.toMove = some none := rfl
    exact plays.conclude concludes
  | quit => exact ⟨_, rfl, .quit⟩

/-- A console that plays answers every line. -/
theorem Plays.respond (plays : console.Plays) (line : String) :
    ∃ reply, console.respond line = .ok reply ∧ console.Answered (Command.ofLine line) reply := by
  unfold Console.respond
  cases Command.ofLine line with
  | error complaint => exact ⟨_, rfl, .complaint complaint⟩
  | ok command? =>
    cases command? with
    | none => exact ⟨_, rfl, .blank⟩
    | some command =>
      obtain ⟨reply, done, performed⟩ := plays.perform command
      exact ⟨reply, done, .command performed⟩

theorem Performed.plays {command : Command} (performed : console.Performed command reply)
    (plays : console.Plays) : reply.console.Plays := by
  cases performed with
  | newGame begun => exact ⟨_, [], begun, rfl⟩
  | moved played live => exact plays.act (Game.act_move_of_ok played) _
  | decided played finished => exact plays.act (Game.act_move_of_ok played) _
  | concluded concludes finished =>
    obtain ⟨action, acted⟩ := Game.exists_act_of_finish finished
    exact plays.act acted _
  | refused | moves | status | board | history | tooLate | quit => exact plays

/-- Only the command to quit ends the console. -/
theorem Performed.goesOn_eq_false_iff {command : Command}
    (performed : console.Performed command reply) : reply.goesOn = false ↔ command = .quit := by
  cases performed with
  | quit => exact ⟨fun _ => rfl, fun _ => rfl⟩
  | newGame | moved | decided | refused | moves | status | board | history =>
    exact ⟨nofun, nofun⟩
  | concluded concludes | tooLate concludes =>
    refine ⟨nofun, ?_⟩
    rintro rfl
    cases concludes

theorem Answered.plays {read : Except Complaint (Option Command)}
    (answered : console.Answered read reply) (plays : console.Plays) : reply.console.Plays := by
  cases answered with
  | blank => exact plays
  | complaint complaint => exact plays
  | command performed => exact performed.plays plays

theorem Answered.goesOn_eq_false_iff {read : Except Complaint (Option Command)}
    (answered : console.Answered read reply) : reply.goesOn = false ↔ read = .ok (some .quit) := by
  cases answered with
  | blank => exact ⟨nofun, nofun⟩
  | complaint complaint => exact ⟨nofun, nofun⟩
  | command performed =>
    rw [performed.goesOn_eq_false_iff, Except.ok.injEq, Option.some.injEq]

/-- A line whose first word is the name of a plain command gets the reply to this command. -/
theorem Answered.of_plain {words : List String} (answered : console.Answered (Command.ofWords words) reply)
    {name : String} {command : Command} (named : (name, command) ∈ Command.plain)
    (asks : words.head? = some name) : console.Performed command reply := by
  obtain ⟨rest, rfl⟩ := List.head?_eq_some_iff.mp asks
  rw [Command.ofWords_of_plain named] at answered
  cases answered with
  | command performed => exact performed

/-- A line that spells a command gets the reply to it. -/
theorem respond_of_read {line : String} {command : Command}
    (read : Command.ofWords (Command.words line) = .ok (some command)) :
    console.respond line = console.perform command := by
  have spelled : Command.ofLine line = .ok (some command) := read
  rw [respond, spelled]

theorem respond_of_plain {line name : String} {command : Command}
    (named : (name, command) ∈ Command.plain) (asks : (Command.words line).head? = some name) :
    console.respond line = console.perform command := by
  obtain ⟨rest, words⟩ := List.head?_eq_some_iff.mp asks
  apply respond_of_read
  rw [words, Command.ofWords_of_plain named]

/-- A console that plays gets through any list of lines. -/
theorem Plays.exists_after (plays : console.Plays) (lines : List String) :
    ∃ reached, console.after lines = .ok reached ∧ reached.Plays := by
  induction lines generalizing console with
  | nil => exact ⟨console, rfl, plays⟩
  | cons line rest ih =>
    obtain ⟨reply, responded, answered⟩ := plays.respond line
    obtain ⟨reached, went, stillPlays⟩ := ih (answered.plays plays)
    refine ⟨reached, ?_, stillPlays⟩
    rw [after, List.foldlM_cons, responded]
    exact went

/-- Whatever lines a console has been given since it was started, it answers the next one, and it
goes on unless the first word of the line is `quit`. -/
theorem answers_every_line {settings : Settings} {placement : Option Placement}
    (started : start settings placement = .ok console) (lines : List String) (line : String) :
    ∃ reached reply, console.after lines = .ok reached ∧ reached.respond line = .ok reply ∧
      (reply.goesOn = false ↔ (Command.words line).head? = some "quit") := by
  obtain ⟨reached, went, plays⟩ := (plays_of_start started).exists_after lines
  obtain ⟨reply, responded, answered⟩ := plays.respond line
  refine ⟨reached, reply, went, responded, ?_⟩
  rw [answered.goesOn_eq_false_iff]
  exact Command.ofWords_eq_quit_iff

/-- A wish to quit that is not heeded, a resignation, and the moves of a piece of the winner in a
game that is over: the console still answers, and quits when it is asked again. -/
theorem answers_every_line_after_quit :
    let lines := ["quit", "resign", "moves 0,1"]
    ∃ console reached reply, start {} none = .ok console ∧ console.after lines = .ok reached ∧
      reached.respond " quit now" = .ok reply ∧ reply.goesOn = false := by
  intro lines
  have started : start {} none = .ok ⟨{}, none, Game.opening {}⟩ := rfl
  obtain ⟨reached, reply, went, responded, goesOn⟩ := answers_every_line started lines " quit now"
  have quits : (Command.words " quit now").head? = some "quit" := by decide +kernel
  exact ⟨_, reached, reply, started, went, responded, goesOn.mpr quits⟩

end Console

end Xiangqi
