import Xiangqi.Proofs.Console.Wording
import Xiangqi.Proofs.Ending

/-!
# What a reply says about the game

A host sees the text of a reply and not the game. `Console.Tells` says what the text and the first
word of the line tell of the game all the same: whether it is the game it was, which record was added
to its history, and how it ended. A reply begins with an `o` whenever the game may have changed
(`Answered.console_eq_or`), so no error and no rejection hides a change; and a resignation or a draw
is rejected only if the game was over already (`Performed.rejected_iff_of_concluded`).
-/

namespace Xiangqi

/-- What the words of a line and the text of the reply tell of the game after the line. -/
structure Console.Tells (console : Console) (words : List String) (reply : Reply) : Prop where
  idle : (∀ name ∈ ["new", "move", "resign", "draw"], words.head? ≠ some name) →
    reply.console = console
  declined : "error".toList <+: reply.text.toList ∨ "rejected".toList <+: reply.text.toList →
    reply.console = console
  /-- One record was added, of the squares that were asked for, and the reply has a second line
  exactly if the opponent has no legal move. -/
  moved : words.head? = some "move" → ∀ wxf, Text.firstLine reply.text = s!"ok {wxf}" →
    ∃ first second ply answers, words = ["move", first, second] ∧
      Square.read first = .ok ply.source ∧ Square.read second = .ok ply.target ∧
      reply.console.game.plies = console.game.plies ++ [ply] ∧ ply.wxf = wxf ∧
      ply.side = console.game.toMove ∧
      reply.console.game.board.legalMoves ply.side.opponent = .ok answers ∧
      reply.text = s!"ok {wxf}\n" ++ if answers = [] then s!"over {ply.side.name}\n" else ""
  resigned : words.head? = some "resign" → ¬ "rejected".toList <+: reply.text.toList →
    reply.console.game =
      { console.game with status := .over (some console.game.toMove.opponent) }
  drawn : words.head? = some "draw" → ¬ "rejected".toList <+: reply.text.toList →
    reply.console.game = { console.game with status := .over none }
  /-- Only a game that is over cannot be resigned or drawn any more. -/
  tooLate : words.head? = some "resign" ∨ words.head? = some "draw" →
    ("rejected".toList <+: reply.text.toList ↔ console.game.status ≠ .inProgress)

theorem Game.eq_of_finish {game next : Game} {winner : Option Side}
    (finished : game.finish winner = .ok next) : next = { game with status := .over winner } := by
  unfold finish at finished
  split at finished
  · cases finished
    rfl
  · cases finished

namespace Console

variable {console : Console} {reply : Reply} {words : List String}

theorem text_of_lines {line : String} {rest : List String} (lines : reply.lines = line :: rest) :
    reply.text = line ++ "\n" ++ String.join (rest.map (· ++ "\n")) := by
  rw [Reply.text, lines, List.map_cons, String.join_cons]

theorem text_withGame (game : Game) (line : String) (rest : List String) :
    (console.withGame game (line :: rest)).text =
      line ++ "\n" ++ String.join (rest.map (· ++ "\n")) := by
  apply text_of_lines
  rfl

/-- A reply begins with what its first line begins with. -/
theorem opens_of_lines {line : String} {rest : List String} {opening : List Char}
    (lines : reply.lines = line :: rest) (opens : opening <+: line.toList) :
    opening <+: reply.text.toList := by
  rw [text_of_lines lines, String.toList_append, String.toList_append, List.append_assoc]
  exact opens.trans (List.prefix_append _ _)

theorem opens_accepted (wxf : String) : ['o'] <+: s!"ok {wxf}".toList := by
  rw [String.toList_append]
  exact ⟨_, rfl⟩

theorem opens_rejected (message : String) : "rejected".toList <+: s!"rejected {message}".toList := by
  rw [String.toList_append]
  exact ⟨_, rfl⟩

theorem opens_statusText {game : Game} {winner : Option Side} (ended : game.status = .over winner) :
    ['o'] <+: game.statusText.toList := by
  unfold Game.statusText
  rw [ended]
  cases winner with
  | none =>
    change ['o'] <+: "over draw".toList
    decide
  | some side =>
    simp only [String.toList_append]
    exact ⟨_, rfl⟩

/-- The text of a reply never begins in two ways. -/
theorem not_opens_of_opens {first second : Char} {rest text : List Char} (other : first ≠ second)
    (opens : first :: rest <+: text) : ¬ [second] <+: text := by
  rintro ⟨_, rfl⟩
  exact other (List.cons_prefix_cons.mp opens).1

/-- Either the console is as it was, or the reply begins with an `o` and the command is one of the four
kinds that may change the game. -/
theorem Performed.console_eq_or {command : Command} (performed : console.Performed command reply) :
    reply.console = console ∨ ['o'] <+: reply.text.toList ∧
      (command = .newGame ∨ (∃ source target, command = .move source target) ∨
        command = .resign ∨ command = .draw) := by
  cases performed with
  | newGame begun => exact .inr ⟨opens_of_lines rfl ⟨_, rfl⟩, .inl rfl⟩
  | @moved source target ply game played live =>
    exact .inr ⟨opens_of_lines rfl (opens_accepted _), .inr (.inl ⟨source, target, rfl⟩)⟩
  | @decided source target ply game played finished =>
    exact .inr ⟨opens_of_lines rfl (opens_accepted _), .inr (.inl ⟨source, target, rfl⟩)⟩
  | concluded concludes finished =>
    have ended := (Game.status_of_finish finished).2
    refine .inr ⟨opens_of_lines rfl (opens_statusText ended), .inr (.inr ?_)⟩
    cases command with
    | resign => exact .inl rfl
    | draw => exact .inr rfl
    | _ => cases concludes
  | refused | moves | status | board | history | tooLate | quit => exact .inl rfl

/-- The first word of a line that may change the game. -/
theorem Answered.console_eq_or {read : Except Complaint (Option Command)}
    (answered : console.Answered read reply) (spells : Command.Spells words read) :
    reply.console = console ∨ ['o'] <+: reply.text.toList ∧
      ∃ name ∈ ["new", "move", "resign", "draw"], words.head? = some name := by
  cases answered with
  | blank => exact .inl rfl
  | complaint complaint => exact .inl rfl
  | @command command reply performed =>
    rcases performed.console_eq_or with same | ⟨opens, changes⟩
    · exact .inl same
    · refine .inr ⟨opens, ?_⟩
      cases spells with
      | @plain name _ named rest =>
        refine ⟨name, ?_, rfl⟩
        rcases changes with rfl | ⟨source, target, rfl⟩ | rfl | rfl
        all_goals simp_all [Command.plain]
      | move readFirst readSecond => exact ⟨"move", by simp, rfl⟩
      | moves readFirst =>
        rcases changes with same | ⟨source, target, same⟩ | same | same
        all_goals cases same

/-- A line that asks for a move is not understood, or its two words name the squares of the move. -/
theorem Answered.of_move {read : Except Complaint (Option Command)}
    (answered : console.Answered read reply) (spells : Command.Spells words read)
    (asks : words.head? = some "move") :
    (∃ complaint : Complaint, reply = console.say [s!"error {complaint.message}"]) ∨
    ∃ first second source target, words = ["move", first, second] ∧
      Square.read first = .ok source ∧ Square.read second = .ok target ∧
      console.Performed (.move source target) reply := by
  cases answered with
  | blank =>
    cases spells
    cases asks
  | complaint complaint => exact .inl ⟨complaint, rfl⟩
  | command performed =>
    cases spells with
    | plain named rest =>
      rw [List.head?_cons, Option.some.injEq] at asks
      rw [asks] at named
      exact absurd named (by simp [Command.plain])
    | move readFirst readSecond =>
      exact .inr ⟨_, _, _, _, rfl, readFirst, readSecond, performed⟩
    | moves readFirst =>
      have same : "moves" = "move" := Option.some.inj asks
      exact absurd same (by decide)

/-- What an accepted move adds to the history, and when it leaves the opponent without an answer. -/
theorem Plays.exists_answers (plays : console.Plays) {source target : Square} {ply : Ply} {game : Game}
    (played : console.game.play source target = .ok (ply, game)) :
    ply.source = source ∧ ply.target = target ∧ ply.side = console.game.toMove ∧
      game.plies = console.game.plies ++ [ply] ∧
      ∃ answers, game.board.legalMoves ply.side.opponent = .ok answers ∧
        game.status = if answers = [] then .over (some ply.side) else .inProgress := by
  obtain ⟨-, fromSource, toTarget, -, grown⟩ := plays.sound.record_of_play played
  obtain ⟨owned, -, status⟩ := plays.sound.status_of_play played
  have stuck := plays.sound.noReply_iff played
  obtain ⟨answers, listed⟩ : ∃ answers, game.board.legalMoves ply.side.opponent = .ok answers :=
    ⟨_, (plays.sound.of_play played).legalMoves_eq ply.side.opponent⟩
  refine ⟨fromSource, toTarget, owned, grown, answers, listed, ?_⟩
  rw [listed, Except.ok.injEq] at stuck
  rw [status]
  cases movable : game.board.movable game.toMove with
  | true =>
    have some_answer : answers ≠ [] := by
      rw [Ne, stuck, movable]
      decide
    rw [if_neg some_answer]
    rfl
  | false =>
    rw [if_pos (stuck.mpr movable)]
    rfl

theorem Performed.game_eq_of_concluded {command : Command} {winner : Option Side}
    (performed : console.Performed command reply)
    (concludes : command.conclusion? console.game.toMove = some winner)
    (heeded : ¬ "rejected".toList <+: reply.text.toList) :
    reply.console.game = { console.game with status := .over winner } := by
  cases performed with
  | concluded declares finished =>
    rw [concludes] at declares
    cases declares
    exact Game.eq_of_finish finished
  | tooLate declares refused => exact absurd (opens_of_lines rfl (opens_rejected _)) heeded
  | newGame | moved | decided | refused | moves | status | board | history | quit => cases concludes

/-- An attempt to end the game is turned down exactly if the game is over. -/
theorem Performed.rejected_iff_of_concluded {command : Command} {winner : Option Side}
    (performed : console.Performed command reply)
    (concludes : command.conclusion? console.game.toMove = some winner) :
    "rejected".toList <+: reply.text.toList ↔ console.game.status ≠ .inProgress := by
  cases performed with
  | @concluded _ _ game _ finished =>
    obtain ⟨live, ended⟩ := Game.status_of_finish finished
    have opens : ['o'] <+: (console.withGame game [game.statusText]).text.toList :=
      opens_of_lines rfl (opens_statusText ended)
    refine iff_of_false ?_ (not_not_intro live)
    intro rejected
    exact not_opens_of_opens (by decide) rejected opens
  | tooLate _ refused =>
    exact iff_of_true (opens_of_lines rfl (opens_rejected _))
      (Game.over_of_finish_eq_error refused)
  | newGame | moved | decided | refused | moves | status | board | history | quit => cases concludes

/-- The reply to an accepted move gives the notation of its record, and names the winner on a second
line if the move has left the opponent without an answer. -/
theorem Plays.tells_move (plays : console.Plays) {source target : Square} {wxf : String}
    (performed : console.Performed (.move source target) reply)
    (unbroken : ∀ line ∈ reply.lines, Text.Unbroken line)
    (accepted : Text.firstLine reply.text = s!"ok {wxf}") :
    ∃ ply answers, ply.source = source ∧ ply.target = target ∧
      reply.console.game.plies = console.game.plies ++ [ply] ∧ ply.wxf = wxf ∧
      ply.side = console.game.toMove ∧
      reply.console.game.board.legalMoves ply.side.opponent = .ok answers ∧
      reply.text = s!"ok {wxf}\n" ++ if answers = [] then s!"over {ply.side.name}\n" else "" := by
  cases performed with
  | @moved _ _ ply game played live =>
    obtain ⟨fromSource, toTarget, owned, grown, answers, listed, status⟩ := plays.exists_answers played
    rw [firstLine_text rfl unbroken] at accepted
    obtain rfl : ply.wxf = wxf := (String.append_right_inj _).mp accepted
    have some_answer : answers ≠ [] := by
      rintro rfl
      rw [live] at status
      cases status
    refine ⟨ply, answers, fromSource, toTarget, grown, rfl, owned, listed, ?_⟩
    rw [if_neg some_answer, text_withGame]
    rfl
  | @decided _ _ ply game played finished =>
    obtain ⟨fromSource, toTarget, owned, grown, answers, listed, status⟩ := plays.exists_answers played
    rw [firstLine_text rfl unbroken] at accepted
    obtain rfl : ply.wxf = wxf := (String.append_right_inj _).mp accepted
    have no_answer : answers = [] := by
      by_contra some_answer
      rw [if_neg some_answer] at status
      exact finished status
    rw [if_pos no_answer] at status
    refine ⟨ply, answers, fromSource, toTarget, grown, rfl, owned, listed, ?_⟩
    have named : game.statusText = s!"over {ply.side.name}" := by
      rw [Game.statusText, status]
    rw [if_pos no_answer, text_withGame, named, List.map_singleton, String.join_cons,
      String.join_nil, String.append_empty]
    rfl
  | @refused _ _ reason refused =>
    rw [firstLine_text rfl unbroken] at accepted
    have opens := opens_rejected reason.message
    rw [accepted] at opens
    exact absurd (opens_accepted wxf) (not_opens_of_opens (by decide) opens)
  | concluded concludes | tooLate concludes => cases concludes

/-- The reply to a line tells of the game after it. -/
theorem Answered.tells (answered : console.Answered (Command.ofWords words) reply)
    (plays : console.Plays) (input : ∀ word ∈ words, Text.Unbroken word) :
    console.Tells words reply where
  idle := by
    intro idle
    rcases answered.console_eq_or (Command.spells_ofWords words) with same | ⟨-, name, listed, asks⟩
    · exact same
    · exact absurd asks (idle name listed)
  declined := by
    intro declined
    rcases answered.console_eq_or (Command.spells_ofWords words) with same | ⟨opens, -⟩
    · exact same
    · rcases declined with error | rejected
      · exact absurd opens (not_opens_of_opens (by decide) error)
      · exact absurd opens (not_opens_of_opens (by decide) rejected)
  moved := by
    intro asks wxf accepted
    have spells := Command.spells_ofWords words
    have unbroken := answered.unbroken spells plays input
    rcases answered.of_move spells asks with ⟨complaint, rfl⟩ |
      ⟨first, second, source, target, rfl, readFirst, readSecond, performed⟩
    · rw [firstLine_text rfl unbroken] at accepted
      have opens := opens_accepted wxf
      rw [← accepted, String.toList_append] at opens
      exact absurd opens (not_opens_of_opens (by decide) (List.prefix_append "error ".toList _))
    · obtain ⟨ply, answers, rfl, rfl, told⟩ := plays.tells_move performed unbroken accepted
      exact ⟨first, second, ply, answers, rfl, readFirst, readSecond, told⟩
  resigned := by
    intro asks heeded
    have performed : console.Performed .resign reply := answered.of_plain (by decide) asks
    exact performed.game_eq_of_concluded rfl heeded
  drawn := by
    intro asks heeded
    have performed : console.Performed .draw reply := answered.of_plain (by decide) asks
    exact performed.game_eq_of_concluded rfl heeded
  tooLate := by
    rintro (asks | asks)
    · have performed : console.Performed .resign reply := answered.of_plain (by decide) asks
      exact performed.rejected_iff_of_concluded rfl
    · have performed : console.Performed .draw reply := answered.of_plain (by decide) asks
      exact performed.rejected_iff_of_concluded rfl

/-- Whatever lines a console has been given since it was started, the reply to the next one tells what
became of the game. -/
theorem replies_tell_effect {settings : Settings} {placement : Option Placement}
    (started : start settings placement = .ok console) (lines : List String) (line : String) :
    ∃ reached reply, console.after lines = .ok reached ∧ reached.respond line = .ok reply ∧
      reached.Tells (Command.words line) reply := by
  obtain ⟨reached, went, plays⟩ := (plays_of_start started).exists_after lines
  obtain ⟨reply, responded, answered⟩ := plays.respond line
  have input : ∀ word ∈ Command.words line, Text.Unbroken word := by
    intro word member
    obtain ⟨letters, inLine, rfl⟩ := List.mem_map.mp member
    exact Text.unbroken_of_mem_words inLine
  exact ⟨reached, reply, went, responded, answered.tells plays input⟩

/-- A chariot mates along the back rank: one record more, and a second line that names its side. -/
theorem replies_tell_effect_mate :
    let placement := [⟨.general, .red, 9, 3⟩, ⟨.general, .black, 0, 4⟩, ⟨.chariot, .red, 1, 8⟩,
      ⟨.chariot, .red, 5, 0⟩]
    ∃ console reached reply ply, start {} (some placement) = .ok console ∧
      console.after ["move 5,0 4,1"] = .ok reached ∧ reached.respond "move 5,0 0,0" = .ok reply ∧
      reply.console.game.plies = reached.game.plies ++ [ply] ∧ ply.wxf = "R9+5" ∧
      ply.source = ⟨5, 0⟩ ∧ ply.target = ⟨0, 0⟩ ∧ reply.text = "ok R9+5\nover red\n" := by
  intro placement
  have mates : (start {} (some placement)).toOption.map (fun console =>
      (console.after ["move 5,0 4,1"]).toOption.map fun reached =>
        (reached.respond "move 5,0 0,0").toOption.map fun reply => reply.text) =
          some (some (some "ok R9+5\nover red\n")) := by
    decide +kernel
  obtain ⟨console, started, seen⟩ := Fallible.exists_ok_of_map_eq_some mates
  obtain ⟨reached, reply, went, responded, tells⟩ :=
    replies_tell_effect started ["move 5,0 4,1"] "move 5,0 0,0"
  rw [went, Except.toOption, Option.map_some, Option.some.injEq, responded, Except.toOption,
    Option.map_some, Option.some.injEq] at seen
  have accepted : Text.firstLine reply.text = "ok " ++ "R9+5" := by
    rw [seen]
    decide +kernel
  obtain ⟨first, second, ply, answers, words, readFirst, readSecond, grown, written, -⟩ :=
    tells.moved (by decide +kernel) "R9+5" accepted
  have spelled : Command.words "move 5,0 0,0" = ["move", "5,0", "0,0"] := by decide +kernel
  rw [spelled] at words
  cases words
  have readsSource : Square.read "5,0" = .ok ⟨5, 0⟩ := by decide +kernel
  have readsTarget : Square.read "0,0" = .ok ⟨0, 0⟩ := by decide +kernel
  rw [readsSource] at readFirst
  rw [readsTarget] at readSecond
  exact ⟨console, reached, reply, ply, started, went, responded, grown, written,
    (Except.ok.inj readFirst).symm, (Except.ok.inj readSecond).symm, seen⟩

end Console

end Xiangqi
