import Xiangqi.Proofs.Console.Reply

/-!
# Dialogues

A host sends one line after the other and gets a reply to each. `Console.replies` is the whole answer
to a list of lines, as `Console.after` is the console that they lead to; a session gives the same
replies up to the line that quits (`Plays.session_eq`). No line changes the settings or the starting
position of a console, so a line that asks for a new game leads back to the console as it was started,
and what came before it cannot be told from any later reply.
-/

namespace Xiangqi.Console

/-- The replies to a list of lines, one for each, also after a line that asked to quit. -/
def replies (console : Console) : List String → Except Failure (List Reply)
  | [] => .ok []
  | line :: rest => do
    let reply ← console.respond line
    let further ← reply.console.replies rest
    return reply :: further

/-- The lines up to the first one whose first word is `quit`, and that line. -/
def untilQuit : List String → List String
  | [] => []
  | line :: rest =>
    if (Command.words line).head? = some "quit" then [line] else line :: untilQuit rest

variable {console reached : Console} {reply : Reply} {line : String}
  {earlier later lines : List String} {told further : List Reply}

theorem after_cons (responded : console.respond line = .ok reply) (rest : List String) :
    console.after (line :: rest) = reply.console.after rest := by
  rw [after, List.foldlM_cons, responded]
  rfl

theorem after_append (went : console.after earlier = .ok reached) (later : List String) :
    console.after (earlier ++ later) = reached.after later := by
  rw [after, List.foldlM_append]
  change (console.after earlier >>= fun console => console.after later) = _
  rw [went]
  rfl

theorem replies_cons (responded : console.respond line = .ok reply)
    (answered : reply.console.replies lines = .ok further) :
    console.replies (line :: lines) = .ok (reply :: further) := by
  rw [replies, responded]
  change (reply.console.replies lines >>= fun further => _) = _
  rw [answered]
  rfl

/-- The second part of a list of lines is answered by the console that the first part leads to. -/
theorem replies_append (answered : console.replies earlier = .ok told)
    (went : console.after earlier = .ok reached) (goesOn : reached.replies later = .ok further) :
    console.replies (earlier ++ later) = .ok (told ++ further) := by
  induction earlier generalizing console told with
  | nil =>
    cases answered
    cases went
    exact goesOn
  | cons line rest ih =>
    rw [replies, Fallible.bind_eq_ok_iff] at answered
    obtain ⟨reply, responded, answered⟩ := answered
    obtain ⟨others, answeredRest, same⟩ := Fallible.bind_eq_ok_iff.mp answered
    cases same
    rw [after_cons responded] at went
    exact replies_cons responded (ih answeredRest went)

/-- A line changes nothing but the game. -/
theorem Performed.console_eq {command : Command} (performed : console.Performed command reply) :
    reply.console = { console with game := reply.console.game } := by
  cases performed <;> rfl

theorem Answered.console_eq {read : Except Complaint (Option Command)}
    (answered : console.Answered read reply) :
    reply.console = { console with game := reply.console.game } := by
  cases answered with
  | blank => rfl
  | complaint complaint => rfl
  | command performed => exact performed.console_eq

/-- A console that plays answers all lines, and they change nothing but the game. -/
theorem Plays.exists_replies (plays : console.Plays) (lines : List String) :
    ∃ replies reached, console.replies lines = .ok replies ∧ replies.length = lines.length ∧
      console.after lines = .ok reached ∧ reached.Plays ∧
      reached = { console with game := reached.game } := by
  induction lines generalizing console with
  | nil => exact ⟨[], console, rfl, rfl, rfl, plays, rfl⟩
  | cons line rest ih =>
    obtain ⟨reply, responded, answered⟩ := plays.respond line
    obtain ⟨further, reached, answeredRest, counted, went, stillPlays, same⟩ :=
      ih (answered.plays plays)
    refine ⟨reply :: further, reached, replies_cons responded answeredRest, ?_, ?_, stillPlays, ?_⟩
    · rw [List.length_cons, List.length_cons, counted]
    · rw [after_cons responded, went]
    · rw [same, answered.console_eq]

/-- A session is the dialogue up to the line that quits. -/
theorem Plays.session_eq (plays : console.Plays) (lines : List String) :
    ∃ replies, console.replies (untilQuit lines) = .ok replies ∧
      console.session lines = (replies, none) := by
  induction lines generalizing console with
  | nil => exact ⟨[], rfl, rfl⟩
  | cons line rest ih =>
    obtain ⟨reply, responded, answered⟩ := plays.respond line
    have quits : reply.goesOn = false ↔ (Command.words line).head? = some "quit" :=
      answered.goesOn_eq_false_iff.trans Command.ofWords_eq_quit_iff
    rw [untilQuit, session, responded]
    cases goesOn : reply.goesOn with
    | false =>
      rw [if_pos (quits.mp goesOn)]
      exact ⟨[reply], replies_cons responded rfl, by simp only [goesOn]; rfl⟩
    | true =>
      have heeded : (Command.words line).head? ≠ some "quit" := by
        intro asks
        rw [quits.mpr asks] at goesOn
        cases goesOn
      obtain ⟨further, answeredRest, sameSession⟩ := ih (answered.plays plays)
      rw [if_neg heeded]
      refine ⟨reply :: further, replies_cons responded answeredRest, ?_⟩
      simp only [goesOn, sameSession]
      rfl

theorem untilQuit_append (heeded : ∀ line ∈ earlier, (Command.words line).head? ≠ some "quit")
    (later : List String) : untilQuit (earlier ++ later) = earlier ++ untilQuit later := by
  induction earlier with
  | nil => rfl
  | cons line rest ih =>
    have others := ih fun other member => heeded other (List.mem_cons_of_mem line member)
    rw [List.cons_append, untilQuit, if_neg (heeded line List.mem_cons_self), others,
      List.cons_append]

/-- A line that asks for a new game leads back to the console as it was started, whatever has been
said in between. -/
theorem respond_new (begun : newGame console.settings console.placement = .ok console.game)
    (same : reached = { console with game := reached.game })
    (asks : (Command.words line).head? = some "new") :
    reached.respond line = .ok (console.say ["ok"]) := by
  have named : ("new", Command.newGame) ∈ Command.plain := by decide
  rw [respond_of_plain named asks, same]
  simp only [perform, begun]
  rfl

theorem newGame_of_start {settings : Settings} {placement : Option Placement}
    (started : start settings placement = .ok console) :
    newGame console.settings console.placement = .ok console.game := by
  obtain ⟨game, begun, returned⟩ := Fallible.bind_eq_ok_iff.mp started
  cases returned
  exact begun

/-- A new game forgets everything. Whatever lines came before, a line that asks for a new game is
answered with `ok`, and all that follows is answered, reply by reply, as a console that has just been
started answers it; the two end as the same console. A session that none of the earlier lines quits
goes on after the new game as the session of the console that has just been started. -/
theorem new_game_forgets {settings : Settings} {placement : Option Placement}
    (started : start settings placement = .ok console) (earlier later : List String)
    (asks : (Command.words line).head? = some "new") :
    ∃ told reply further last,
      console.replies (earlier ++ line :: later) = .ok (told ++ reply :: further) ∧
      told.length = earlier.length ∧ reply.text = "ok\n" ∧
      console.replies later = .ok further ∧
      console.after (earlier ++ line :: later) = .ok last ∧ console.after later = .ok last ∧
      ((∀ line ∈ earlier, (Command.words line).head? ≠ some "quit") →
        console.session (earlier ++ line :: later) =
          (told ++ reply :: (console.session later).1, none)) := by
  have plays := plays_of_start started
  obtain ⟨told, reached, answered, counted, went, -, same⟩ := plays.exists_replies earlier
  obtain ⟨further, last, goesOn, -, ends, -, -⟩ := plays.exists_replies later
  have renewed : reached.respond line = .ok (console.say ["ok"]) :=
    respond_new (newGame_of_start started) same asks
  refine ⟨told, console.say ["ok"], further, last, ?_, counted, rfl, goesOn, ?_, ends, ?_⟩
  · exact replies_append answered went (replies_cons renewed goesOn)
  · rw [after_append went, after_cons renewed]
    exact ends
  · -- A session stops at the line that quits, and this line is behind the new game in both.
    intro heeded
    obtain ⟨heard, answeredHeard, sameSession⟩ := plays.session_eq later
    obtain ⟨whole, answeredWhole, wholeSession⟩ := plays.session_eq (earlier ++ line :: later)
    have newFirst : untilQuit (line :: later) = line :: untilQuit later := by
      rw [untilQuit, if_neg (by rw [asks]; decide)]
    have sameWhole : console.replies (earlier ++ line :: untilQuit later) =
        .ok (told ++ console.say ["ok"] :: heard) :=
      replies_append answered went (replies_cons renewed answeredHeard)
    rw [untilQuit_append heeded, newFirst, sameWhole] at answeredWhole
    cases answeredWhole
    rw [wholeSession, sameSession]

/-- After a move, a resignation and a draw that comes too late, a new game is asked for: the status and
the history are answered as at the start. -/
theorem new_game_forgets_resignation :
    ∃ console told reply further, start {} none = .ok console ∧
      (Command.words "new game").head? = some "new" ∧
      console.replies ["move 6,0 5,0", "resign", "draw", "new game", "status", "history"] =
        .ok (told ++ reply :: further) ∧
      told.length = 3 ∧ console.replies ["status", "history"] = .ok further ∧
      further.map Reply.text = ["turn red\n", "end\n"] := by
  have started : start {} none = .ok ⟨{}, none, Game.opening {}⟩ := rfl
  have asks : (Command.words "new game").head? = some "new" := by decide +kernel
  obtain ⟨told, reply, further, -, answered, counted, -, again, -⟩ :=
    new_game_forgets started ["move 6,0 5,0", "resign", "draw"] ["status", "history"] asks
  refine ⟨_, told, reply, further, started, asks, answered, counted, again, ?_⟩
  have texts : (replies ⟨{}, none, Game.opening {}⟩ ["status", "history"]).toOption.map
      (List.map Reply.text) = some ["turn red\n", "end\n"] := by decide +kernel
  rw [again] at texts
  exact Option.some.inj texts

end Xiangqi.Console
