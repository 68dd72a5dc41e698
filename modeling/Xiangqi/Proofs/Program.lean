import Xiangqi.Program
import Xiangqi.Proofs.Console.Dialogue
import Xiangqi.Proofs.Text.Words

/-!
# The program as a dialogue

Once the program has started it does nothing but answer the lines of its input, and it ends well because
a console that plays never fails. An answer depends on the words of a line only, and a line without words
is answered with nothing. So what is written depends on what the input says (`Text.spoken`), not on how
its lines are ended, nor on whether the last one is.
-/

namespace Xiangqi

namespace Console

variable {console : Console} {line : String} {lines others : List String}

/-- What a session writes, and the failure that ended it. -/
def transcript (console : Console) (lines : List String) : String × Option Failure :=
  (String.join ((console.session lines).1.map Reply.text), (console.session lines).2)

theorem respond_congr {other : String} (same : Command.words line = Command.words other) :
    console.respond line = console.respond other := by
  have read : Command.ofLine line = Command.ofLine other := congrArg Command.ofWords same
  rw [respond, respond, read]

theorem session_congr (same : lines.map Command.words = others.map Command.words) :
    console.session lines = console.session others := by
  induction lines generalizing console others with
  | nil => rw [List.map_eq_nil_iff.mp same.symm]
  | cons line rest ih =>
    obtain ⟨other, further, rfl, sameWords, sameRest⟩ := List.map_eq_cons_iff.mp same.symm
    have responds : console.respond line = console.respond other := respond_congr sameWords.symm
    rw [session, session, responds]
    cases console.respond other with
    | error failure => rfl
    | ok reply =>
      simp only [ih sameRest.symm]

/-- The rest of a session is that of the console that the first line leads to. -/
theorem transcript_cons {reply : Reply} (responded : console.respond line = .ok reply)
    (goesOn : reply.goesOn = true) (rest : List String) :
    console.transcript (line :: rest) =
      (reply.text ++ (reply.console.transcript rest).1, (reply.console.transcript rest).2) := by
  simp only [transcript, session, responded, goesOn, if_true, List.map_cons, String.join_cons]

theorem transcript_cons_of_blank (blank : Command.words line = []) (rest : List String) :
    console.transcript (line :: rest) = console.transcript rest := by
  have read : Command.ofLine line = .ok none := congrArg Command.ofWords blank
  have responded : console.respond line = .ok (console.say []) := by
    rw [respond, read]
  have silent : (console.say []).text = "" := rfl
  rw [transcript_cons responded rfl, silent, String.empty_append]
  rfl

/-- Lines without words may be left out. -/
theorem transcript_filter (console : Console) (lines : List String) :
    console.transcript (lines.filter fun line => !(Command.words line).isEmpty) =
      console.transcript lines := by
  induction lines generalizing console with
  | nil => rfl
  | cons line rest ih =>
    cases blank : (Command.words line).isEmpty with
    | true =>
      rw [List.filter_cons_of_neg (by rw [blank]; decide), ih,
        transcript_cons_of_blank (List.isEmpty_iff.mp blank)]
    | false =>
      -- The line is kept. The session fails at it, goes on behind it, or is over.
      rw [List.filter_cons_of_pos (by rw [blank]; rfl)]
      cases responded : console.respond line with
      | error failure => rw [transcript, transcript, session, session, responded]
      | ok reply =>
        cases goesOn : reply.goesOn with
        | true => rw [transcript_cons responded goesOn, transcript_cons responded goesOn, ih]
        | false => simp only [transcript, session, responded, goesOn, Bool.false_eq_true, if_false]

/-- What is written depends only on the words of the lines that have any. -/
theorem transcript_congr
    (same : (lines.map Command.words).filter (!·.isEmpty) =
      (others.map Command.words).filter (!·.isEmpty)) :
    console.transcript lines = console.transcript others := by
  rw [List.filter_map, List.filter_map] at same
  rw [← transcript_filter console lines, ← transcript_filter console others]
  exact congrArg (fun session => (String.join (session.1.map Reply.text), session.2))
    (session_congr same)

end Console

namespace Program

variable {console : Console} {files : String → Option ByteArray} {environment : Option String}
  {options : CommandLine.Options}

/-- The lines of an input. -/
def inputLines (input : String) : List String :=
  (Text.lines input.toList).map String.ofList

/-- The words of the lines of an input are what the input says. -/
theorem words_inputLines (input : String) :
    ((inputLines input).map Command.words).filter (!·.isEmpty) =
      (Text.spoken input.toList).map (List.map String.ofList) := by
  have read : (inputLines input).map Command.words =
      ((Text.lines input.toList).map Text.words).map (List.map String.ofList) := by
    simp only [inputLines, List.map_map, Function.comp_def, Command.words, String.toList_ofList]
  have empty : ((!·.isEmpty) ∘ List.map String.ofList) =
      fun words : List (List Char) => !words.isEmpty := by
    funext words
    exact congrArg (!·) List.isEmpty_map
  rw [read, List.filter_map, empty, Text.spoken]

theorem converse_congr {input other : String}
    (same : Text.spoken input.toList = Text.spoken other.toList) :
    converse console input = converse console other := by
  have transcripts : console.transcript (inputLines input) = console.transcript (inputLines other) :=
    Console.transcript_congr (by rw [words_inputLines, words_inputLines, same])
  exact congrArg (fun (output, failure) => Outcome.mk output (if failure.isSome then 1 else 0))
    transcripts

/-- A console that has been started answers the input up to the line that quits, and ends well. -/
theorem converse_eq {settings : Settings} {placement : Option Placement}
    (started : Console.start settings placement = .ok console) (input : String) :
    ∃ replies, console.replies (Console.untilQuit (inputLines input)) = .ok replies ∧
      converse console input = ⟨String.join (replies.map Reply.text), 0⟩ := by
  obtain ⟨replies, answered, sameSession⟩ :=
    (Console.plays_of_start started).session_eq (inputLines input)
  rw [inputLines] at sameSession
  refine ⟨replies, answered, ?_⟩
  rw [converse, sameSession]
  rfl

@[simp] theorem setup_eq_ok_iff {α : Type} {outcome : Except SetupError α} {value : α} :
    setup outcome = .ok value ↔ outcome = .ok value := by
  cases outcome with
  | ok other => simp only [setup, Except.ok.injEq]
  | error error => simp only [setup, reduceCtorEq]

/-- What it takes for the program to start: the settings and the starting position can be read, there
is a log filter to go by, and the console can be started with them. -/
theorem prepare_eq_ok_iff :
    prepare files environment options = .ok console ↔ ∃ settings placement,
      settingsFrom files options.settings = .ok settings ∧
      checkLogFilter environment settings.logLevel = .ok () ∧
      placementFrom files options.placement = .ok placement ∧
      Console.start settings placement = .ok console := by
  simp only [prepare, Fallible.bind_eq_ok_iff, setup_eq_ok_iff]
  constructor
  · rintro ⟨settings, configured, ⟨⟩, filtered, placement, placed, started⟩
    exact ⟨settings, placement, configured, filtered, placed, started⟩
  · rintro ⟨settings, placement, configured, filtered, placed, started⟩
    exact ⟨settings, configured, (), filtered, placement, placed, started⟩

/-- The program is its console, line by line. If the arguments are understood, the settings and the
starting position can be read, there is a log filter to go by and the console can be started, then the
program writes what the console answers to the lines of the input, up to the line that quits, and ends
with the code 0. Neither the form of the line ends nor a line end behind the last line makes a
difference. -/
theorem run_is_dialogue {arguments : List String} {settings : Settings}
    {placement : Option Placement} (asked : CommandLine.read arguments = .play options)
    (configured : settingsFrom files options.settings = .ok settings)
    (filtered : checkLogFilter environment settings.logLevel = .ok ())
    (placed : placementFrom files options.placement = .ok placement)
    (started : Console.start settings placement = .ok console) (input : String) :
    (∃ replies, console.replies (Console.untilQuit (inputLines input)) = .ok replies ∧
      run files arguments input environment = ⟨String.join (replies.map Reply.text), 0⟩) ∧
      run files arguments (String.ofList (Text.withReturns input.toList)) environment =
        run files arguments input environment ∧
      run files arguments (input ++ "\n") environment = run files arguments input environment ∧
      run files arguments (input ++ "\r\n") environment =
        run files arguments input environment := by
  have runs : ∀ text, run files arguments text environment = converse console text := by
    intro text
    rw [run, asked]
    simp only [prepare_eq_ok_iff.mpr ⟨settings, placement, configured, filtered, placed, started⟩]
  rw [runs, runs, runs, runs]
  refine ⟨converse_eq started input, converse_congr ?_, converse_congr ?_, converse_congr ?_⟩
  · rw [String.toList_ofList, Text.spoken_withReturns]
  · rw [String.toList_append]
    exact Text.spoken_concat_blank (by decide) _
  · have ends : (input ++ "\r\n").toList = (input.toList ++ ['\r']) ++ ['\n'] := by
      rw [String.toList_append, List.append_assoc]
      rfl
    rw [ends, Text.spoken_concat_blank (by decide), Text.spoken_concat_blank (by decide)]

/-- Settings by which Black moves first, and an endgame of two generals. -/
def endgameFiles : String → Option ByteArray
  | "rules.toml" => some "first_to_move = \"black\"\nlog_level = \"warn\"\n".toUTF8
  | "study.json" => some "[[\"general\", \"red\", 9, 4], [\"general\", \"black\", 0, 3]]".toUTF8
  | _ => none

/-- From these files: a refused move, a line without words, a move, and the line that quits. What
follows that line is not looked at, and lines that end with a carriage return are answered alike. A
log filter of the environment that is none makes no difference, as the settings have one. -/
theorem run_is_dialogue_endgame :
    ∃ options settings placement console replies,
      CommandLine.read ["-c", "rules.toml", "--placement=study.json"] = .play options ∧
      settingsFrom endgameFiles options.settings = .ok settings ∧
      checkLogFilter none settings.logLevel = .ok () ∧
      checkLogFilter (some "=debug") settings.logLevel = .ok () ∧
      placementFrom endgameFiles options.placement = .ok placement ∧
      Console.start settings placement = .ok console ∧
      console.replies ["move 0,3 0,4", "", "move 0,3 1,3", "quit now"] = .ok replies ∧
      replies.map Reply.text =
        ["rejected move would leave the black general in danger\n", "", "ok k4+1\n", ""] ∧
      run endgameFiles ["-c", "rules.toml", "--placement=study.json"]
          "move 0,3 0,4\n\nmove 0,3 1,3\nquit now\nstatus" =
        ⟨"rejected move would leave the black general in danger\nok k4+1\n", 0⟩ ∧
      run endgameFiles ["-c", "rules.toml", "--placement=study.json"]
          "move 0,3 0,4\r\n\r\nmove 0,3 1,3\r\nquit now\r\nstatus" =
        ⟨"rejected move would leave the black general in danger\nok k4+1\n", 0⟩ ∧
      run endgameFiles ["-c", "rules.toml", "--placement=study.json"]
          "move 0,3 0,4\n\nmove 0,3 1,3\nquit now\nstatus" (some "=debug") =
        ⟨"rejected move would leave the black general in danger\nok k4+1\n", 0⟩ := by
  have asked : CommandLine.read ["-c", "rules.toml", "--placement=study.json"] =
      .play ⟨some "rules.toml", some "study.json"⟩ := by decide +kernel
  have configured : settingsFrom endgameFiles (some "rules.toml") =
      .ok { firstToMove := .black, logLevel := "warn" } := by decide +kernel
  have filtered : checkLogFilter none "warn" = .ok () := by decide +kernel
  have passedOver : checkLogFilter (some "=debug") "warn" = .ok () := by decide +kernel
  have placed : placementFrom endgameFiles (some "study.json") =
      .ok (some [⟨.general, .red, 9, 4⟩, ⟨.general, .black, 0, 3⟩]) := by decide +kernel
  have looked : (Console.start { firstToMove := .black, logLevel := "warn" }
        (some [⟨.general, .red, 9, 4⟩, ⟨.general, .black, 0, 3⟩])).toOption.map
      (fun console =>
        (console.replies ["move 0,3 0,4", "", "move 0,3 1,3", "quit now"]).toOption.map
          (List.map Reply.text)) =
      some (some ["rejected move would leave the black general in danger\n", "", "ok k4+1\n", ""]) := by
    decide +kernel
  have heard : Console.untilQuit (inputLines "move 0,3 0,4\n\nmove 0,3 1,3\nquit now\nstatus") =
      ["move 0,3 0,4", "", "move 0,3 1,3", "quit now"] := by decide +kernel
  obtain ⟨console, started, texts⟩ := Fallible.exists_ok_of_map_eq_some looked
  obtain ⟨⟨replies, answered, ends⟩, returns, -⟩ :=
    run_is_dialogue asked configured filtered placed started
      "move 0,3 0,4\n\nmove 0,3 1,3\nquit now\nstatus"
  obtain ⟨⟨others, alsoAnswered, alsoEnds⟩, -⟩ :=
    run_is_dialogue asked configured passedOver placed started
      "move 0,3 0,4\n\nmove 0,3 1,3\nquit now\nstatus"
  rw [answered, Except.ok.injEq] at alsoAnswered
  rw [heard] at answered
  rw [answered] at texts
  have told := Option.some.inj texts
  rw [← alsoAnswered, told] at alsoEnds
  rw [told] at ends
  exact ⟨_, _, _, console, replies, asked, configured, filtered, passedOver, placed, started, answered,
    told, ends, returns.trans ends, alsoEnds⟩

end Program

end Xiangqi
