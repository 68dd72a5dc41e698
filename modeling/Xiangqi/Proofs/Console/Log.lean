import Xiangqi.Proofs.Console.Dialogue
import Xiangqi.Proofs.Console.Wording
import Xiangqi.Proofs.Square.Reader

/-!
# The printed history as a script

A host that keeps nothing but the printed history can play the game again: it takes each line apart
(`LogLine.read?`), asks for the move between the two squares it finds there, and is answered with the
notation it finds there. On the way from a record to its line and back nothing is lost, because numbers,
notations and squares are single words and a written square has no hyphen. From there on it is the
replay of the records from the start (`Game.Replays`), answered by a console.
-/

namespace Xiangqi

/-- A line of a printed history, taken apart: its number, the notation of the move, and the two squares
as they are written. -/
structure LogLine where
  number : String
  wxf : String
  source : String
  target : String
deriving DecidableEq

namespace LogLine

/-- What the line of a record holds. -/
def ofPly (ply : Ply) (number : Nat) : LogLine :=
  ⟨toString number, ply.wxf, ply.source.text, ply.target.text⟩

/-- What the lines of records hold that are numbered from the given number on. -/
def ofPlies (plies : List Ply) (number : Nat) : List LogLine :=
  (plies.zipIdx number).map fun (ply, number) => ofPly ply number

/-- Take a line apart: three words, of which the last is two squares with a hyphen between them. -/
def read? (line : List Char) : Option LogLine :=
  match Text.words line with
  | [number, wxf, squares] =>
    match Text.split (· == '-') squares with
    | [source, target] =>
      some ⟨String.ofList number, String.ofList wxf, String.ofList source, String.ofList target⟩
    | _ => none
  | _ => none

/-- Take a printed history apart, whose last line is `end`. -/
def readAll? (text : String) : Option (List LogLine) :=
  let lines := Text.lines text.toList
  if lines.getLast? = some "end".toList then lines.dropLast.mapM read? else none

/-- The line of input that asks for the move of a line. -/
def command (entry : LogLine) : String :=
  s!"move {entry.source} {entry.target}"

end LogLine

theorem Square.hyphen_not_mem_text (sq : Square) : ∀ c ∈ sq.text.toList, (c == '-') = false := by
  intro c member
  rw [toList_text, List.mem_cons, List.mem_append, List.mem_singleton] at member
  rw [beq_eq_false_iff_ne]
  rcases member with rfl | inside | rfl
  · decide
  · rcases cases_of_mem_digits inside with digit | rfl
    · rintro rfl
      exact absurd digit (by decide)
    · decide
  · decide

theorem Move.toList_text (move : Move) :
    move.text.toList = move.source.text.toList ++ '-' :: move.target.text.toList := by
  simp only [text, String.toList_append, List.append_assoc]
  rfl

theorem Move.isWord_text (move : Move) : Text.IsWord move.text.toList := by
  rw [toList_text]
  exact move.source.isWord_text.glue (by decide) move.target.isWord_text

theorem Move.split_text (move : Move) :
    Text.split (· == '-') move.text.toList = [move.source.text.toList, move.target.text.toList] := by
  rw [toList_text, Text.split_append_separator rfl,
    Text.split_eq_singleton move.source.hyphen_not_mem_text,
    Text.split_eq_singleton move.target.hyphen_not_mem_text]
  rfl

namespace Console

variable {console : Console}

theorem toList_historyLine (ply : Ply) (number : Nat) :
    (historyLine ply number).toList = Nat.toDigits 10 number ++
      ' ' :: (ply.wxf.toList ++ ' ' :: (Move.mk ply.source ply.target).text.toList) := by
  simp only [historyLine, String.toList_append, Text.toList_toString_nat, List.append_assoc]
  rfl

/-- The line of a record is taken apart into what it was put together from. -/
theorem read?_historyLine {ply : Ply} (isWord : Text.IsWord ply.wxf.toList) (number : Nat) :
    LogLine.read? (historyLine ply number).toList = some (.ofPly ply number) := by
  have blank : Text.isBlank ' ' = true := by decide
  have words : Text.words (historyLine ply number).toList =
      [Nat.toDigits 10 number, ply.wxf.toList, (Move.mk ply.source ply.target).text.toList] := by
    rw [toList_historyLine, (Text.isWord_toDigits number).words_append blank,
      isWord.words_append blank, (Move.isWord_text _).words_eq]
  simp only [LogLine.read?, words, Move.split_text, LogLine.ofPly, String.ofList_toList,
    ← Text.toList_toString_nat]

theorem bare_historyLine (ply : Ply) (number : Nat) :
    (historyLine ply number).toList.getLast? ≠ some '\r' := by
  rw [toList_historyLine, Move.toList_text, Square.toList_text ply.target]
  simp [List.getLast?_cons]

/-- The text of the history is taken apart into its records. -/
theorem Plays.readAll?_history (plays : console.Plays) :
    LogLine.readAll? (console.say (historyLines console.game)).text =
      some (LogLine.ofPlies console.game.plies 1) := by
  have performed : console.Performed .history (console.say (historyLines console.game)) := .history
  have unbroken := performed.unbroken plays
  -- A carriage return at the end of a record would be taken for a part of the line end.
  have bare : ∀ line ∈ historyLines console.game, line.toList.getLast? ≠ some '\r' := by
    intro line member
    rcases List.mem_append.mp member with entry | last
    · obtain ⟨⟨ply, number⟩, -, rfl⟩ := List.mem_map.mp entry
      exact bare_historyLine ply number
    · rw [List.mem_singleton.mp last]
      decide
  have taken : (((console.game.plies.zipIdx 1).map fun (ply, number) => historyLine ply number).map
      String.toList).mapM LogLine.read? =
        some (LogLine.ofPlies console.game.plies 1) := by
    rw [List.map_map, List.mapM_map]
    apply Fallible.mapM_eq_pure
    rintro ⟨ply, number⟩ numbered
    have isWord := plays.isWord_wxf (List.fst_mem_of_mem_zipIdx numbered)
    rw [Function.comp_apply, Function.comp_apply, read?_historyLine isWord]
    rfl
  have lines : (console.say (historyLines console.game)).lines = historyLines console.game := rfl
  rw [LogLine.readAll?, Reply.text, Text.lines_join_lines unbroken bare, lines, historyLines,
    List.map_append, List.map_singleton, List.getLast?_concat, List.dropLast_concat, if_pos rfl,
    taken]

theorem words_command (ply : Ply) (number : Nat) :
    Command.words (LogLine.ofPly ply number).command =
      ["move", ply.source.text, ply.target.text] := by
  have blank : Text.isBlank ' ' = true := by decide
  have name : Text.IsWord "move".toList := by decide
  have letters : (LogLine.ofPly ply number).command.toList =
      "move".toList ++ ' ' :: (ply.source.text.toList ++ ' ' :: ply.target.text.toList) := by
    simp only [LogLine.command, LogLine.ofPly, String.toList_append, List.append_assoc]
    rfl
  rw [Command.words, letters, name.words_append blank, ply.source.isWord_text.words_append blank,
    ply.target.isWord_text.words_eq]
  simp only [List.map_cons, List.map_nil, String.ofList_toList]

/-- The line that was made from a record asks for its move. -/
theorem respond_command (console : Console) (ply : Ply) (number : Nat) :
    console.respond (LogLine.ofPly ply number).command =
      console.makeMove ply.source ply.target := by
  have read : Command.ofWords (Command.words (LogLine.ofPly ply number).command) =
      .ok (some (.move ply.source ply.target)) := by
    rw [words_command]
    simp only [Command.ofWords, Command.squareOf, Square.read_text, bind, Except.bind, pure,
      Except.pure]
  exact respond_of_read read

/-- An accepted move is answered with its notation first. -/
theorem Performed.of_play {source target : Square} {reply : Reply} {ply : Ply} {next : Game}
    (performed : console.Performed (.move source target) reply)
    (played : console.game.play source target = .ok (ply, next)) :
    ∃ rest, reply = console.withGame next (s!"ok {ply.wxf}" :: rest) := by
  cases performed with
  | moved accepted live =>
    cases played.symm.trans accepted
    exact ⟨[], rfl⟩
  | decided accepted finished =>
    cases played.symm.trans accepted
    exact ⟨[next.statusText], rfl⟩
  | refused refused => cases played.symm.trans refused
  | concluded concludes | tooLate concludes => cases concludes

/-- A record whose move is accepted is repeated by the answer to its line. -/
theorem Plays.respond_command_of_play (plays : console.Plays) {ply : Ply} {next : Game}
    (played : console.game.play ply.source ply.target = .ok (ply, next)) (number : Nat) :
    ∃ reply, console.respond (LogLine.ofPly ply number).command = .ok reply ∧
      Text.firstLine reply.text = s!"ok {ply.wxf}" ∧
      reply.console = { console with game := next } ∧ reply.console.Plays := by
  obtain ⟨reply, made, performed⟩ := plays.makeMove ply.source ply.target
  have unbroken := performed.unbroken plays
  have stillPlays := performed.plays plays
  obtain ⟨rest, rfl⟩ := performed.of_play played
  exact ⟨_, (respond_command console ply number).trans made, firstLine_text rfl unbroken, rfl,
    stillPlays⟩

/-- Records that the game accepts one after the other are repeated by the answers to their lines. -/
theorem Plays.replies_ofPlies (plays : console.Plays) {plies : List Ply}
    (accepted : console.game.answers (Game.replay plies) = plies.map .made) (number : Nat) :
    let log := LogLine.ofPlies plies number
    ∃ answers, console.replies (log.map LogLine.command) = .ok answers ∧
      (answers.map fun reply => Text.firstLine reply.text) =
        log.map (fun entry => s!"ok {entry.wxf}") ∧
      console.after (log.map LogLine.command) =
        .ok { console with game := console.game.run (Game.replay plies) } := by
  induction plies generalizing console number with
  | nil => exact ⟨[], rfl, rfl, rfl⟩
  | cons ply rest ih =>
    obtain ⟨first, others⟩ := List.cons.inj accepted
    obtain ⟨next, played⟩ := Game.exists_play_of_made first
    have acted := Game.act_move_of_ok played
    have runs : console.game.run (Game.replay (ply :: rest)) = next.run (Game.replay rest) := by
      rw [Game.replay, List.map_cons, Game.run_cons, acted]
      rfl
    rw [acted] at others
    -- The rest is answered by the console that the first move leads to.
    obtain ⟨reply, responded, told, moved, stillPlays⟩ :=
      plays.respond_command_of_play played number
    rw [moved] at stillPlays
    obtain ⟨answers, answered, toldRest, went⟩ := ih stillPlays others (number + 1)
    refine ⟨reply :: answers, ?_, ?_, ?_⟩
    · exact replies_cons responded (moved ▸ answered)
    · exact congrArg₂ List.cons told toldRest
    · apply (after_cons responded _).trans
      rw [moved, runs]
      exact went

theorem respond_history (console : Console) :
    console.respond "history" = .ok (console.say (historyLines console.game)) := by
  have named : ("history", Command.history) ∈ Command.plain := by decide
  rw [respond_of_plain named (by decide +kernel)]
  rfl

theorem respond_board (console : Console) :
    console.respond "board" =
      .ok (console.say (console.game.board.diagramLines.map String.ofList)) := by
  have named : ("board", Command.board) ∈ Command.plain := by decide
  rw [respond_of_plain named (by decide +kernel)]
  rfl

/-- The game that the lines lead to is replayed from the game that the console was started with. -/
theorem replays_of_after {settings : Settings} {placement : Option Placement} {reached : Console}
    (started : start settings placement = .ok console) (plays : reached.Plays)
    (same : reached = { console with game := reached.game }) :
    Game.Replays console.game reached.game := by
  have begun := newGame_of_start started
  obtain ⟨first, actions, begunAgain, led⟩ := plays
  rw [same] at begunAgain
  cases begun.symm.trans begunAgain
  have fresh := begun_of_newGame begun
  rw [led]
  exact .run fresh.sound fresh.plies_eq_nil actions

/-- The printed history replays. Whatever lines a console has been given since it was started, what it
prints for `history` is taken apart into the numbered records; a console that has just been started
answers their moves, one after the other, with the notation that was printed, and then prints the same
history and the same board. -/
theorem printed_history_replays {settings : Settings} {placement : Option Placement}
    (started : start settings placement = .ok console) (lines : List String) :
    ∃ reached printed, console.after lines = .ok reached ∧
      reached.respond "history" = .ok printed ∧
      let log := LogLine.ofPlies reached.game.plies 1
      LogLine.readAll? printed.text = some log ∧
      ∃ answers again, console.replies (log.map LogLine.command) = .ok answers ∧
        (answers.map fun reply => Text.firstLine reply.text) =
          log.map (fun entry => s!"ok {entry.wxf}") ∧
        console.after (log.map LogLine.command) = .ok again ∧
        ∀ question ∈ ["history", "board"], ∃ before after,
          reached.respond question = .ok before ∧ again.respond question = .ok after ∧
            after.text = before.text := by
  have plays := plays_of_start started
  obtain ⟨-, reached, -, -, went, stillPlays, same⟩ := plays.exists_replies lines
  have replays := replays_of_after started stillPlays same
  obtain ⟨answers, answered, told, wentAgain⟩ := plays.replies_ofPlies replays.answers_eq 1
  refine ⟨reached, _, went, reached.respond_history, stillPlays.readAll?_history, answers, _,
    answered, told, wentAgain, ?_⟩
  intro question asked
  rw [replays.run_eq]
  rcases List.mem_cons.mp asked with rfl | asked
  · exact ⟨_, _, respond_history _, respond_history _, rfl⟩
  · obtain rfl := List.mem_singleton.mp asked
    exact ⟨_, _, respond_board _, respond_board _, rfl⟩

/-- A capture, a move that is refused, a recapture and a resignation: two lines of history are printed,
and the moves that they name are answered with the notation that they give. -/
theorem printed_history_replays_exchange :
    let lines := ["move 7,1 0,1", "move 9,0 8,0", "move 0,0 0,1", "resign"]
    ∃ console reached printed answers, start {} none = .ok console ∧
      console.after lines = .ok reached ∧ reached.respond "history" = .ok printed ∧
      printed.text = "1 C8+7 (7,1)-(0,1)\n2 r1.2 (0,0)-(0,1)\nend\n" ∧
      console.replies ["move (7,1) (0,1)", "move (0,0) (0,1)"] = .ok answers ∧
      (answers.map fun reply => Text.firstLine reply.text) = ["ok C8+7", "ok r1.2"] := by
  intro lines
  have started : start {} none = .ok ⟨{}, none, Game.opening {}⟩ := rfl
  obtain ⟨reached, printed, went, responded, readLog, answers, -, answered, told, -⟩ :=
    printed_history_replays started lines
  have prints : (after ⟨{}, none, Game.opening {}⟩ lines).toOption.map (fun reached =>
      (reached.respond "history").toOption.map Reply.text) =
        some (some "1 C8+7 (7,1)-(0,1)\n2 r1.2 (0,0)-(0,1)\nend\n") := by
    decide +kernel
  rw [went, Except.toOption, Option.map_some, Option.some.injEq, responded, Except.toOption,
    Option.map_some, Option.some.injEq] at prints
  have taken : LogLine.readAll? "1 C8+7 (7,1)-(0,1)\n2 r1.2 (0,0)-(0,1)\nend\n" =
      some [⟨"1", "C8+7", "(7,1)", "(0,1)"⟩, ⟨"2", "r1.2", "(0,0)", "(0,1)"⟩] := by
    decide +kernel
  rw [prints, taken, Option.some.injEq] at readLog
  rw [← readLog] at answered told
  exact ⟨_, reached, printed, answers, started, went, responded, prints, answered, told⟩

end Console

end Xiangqi
