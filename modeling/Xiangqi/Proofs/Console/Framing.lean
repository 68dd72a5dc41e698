import Xiangqi.Proofs.Console.Wording

/-!
# How replies are framed

A host tells replies apart by their lines. `Game.outcome` reads off the words of a line what they
come to in a game; the outcome fixes how many lines the reply has and with which word it begins
(`Outcome.size`, `Outcome.opening`). As a list of lines the reply has that form by the way it is put
together (`Reply.Fits`); that its text has it, too, rests on the lines being unbroken.
-/

namespace Xiangqi

/-- What the words of a line come to. -/
inductive Outcome where
  /-- Nothing is written. -/
  | silent
  | misunderstood
  | begun
  | accepted (decided : Bool)
  | refused
  | listed (any : Bool)
  | reported (finished : Bool)
  | pictured
  | recounted (plies : Nat)
deriving DecidableEq

/-- The number of lines that tell of an outcome. -/
def Outcome.size : Outcome → Nat
  | silent => 0
  | accepted true => 2
  | pictured => 11
  | recounted plies => plies + 1
  | misunderstood | begun | accepted false | refused | listed _ | reported _ => 1

/-- The first word that tells of an outcome, up to the blank or the line feed behind it. -/
def Outcome.opening : Outcome → String
  | silent => ""
  | misunderstood => "error "
  | begun => "ok\n"
  | accepted _ => "ok "
  | refused => "rejected "
  | listed true => "moves "
  | listed false => "moves\n"
  | reported true => "over "
  | reported false => "turn "
  | pictured => "0 "
  | recounted 0 => "end\n"
  | recounted (_ + 1) => "1 "

/-- What an attempt to move comes to. -/
def Game.outcomeOfMove (game : Game) (source target : Square) : Outcome :=
  match game.play source target with
  | .ok (_, next) => .accepted (next.status ≠ .inProgress)
  | .error _ => .refused

/-- What an attempt to end the game comes to. -/
def Game.outcomeOfEnd (game : Game) : Outcome :=
  if game.status = .inProgress then .reported true else .refused

/-- What the words of a line come to in a game. -/
def Game.outcome (game : Game) : List String → Outcome
  | [] | "quit" :: _ => .silent
  | "new" :: _ => .begun
  | "status" :: _ => .reported (game.status ≠ .inProgress)
  | "board" :: _ => .pictured
  | "history" :: _ => .recounted game.plyCount
  | "resign" :: _ | "draw" :: _ => game.outcomeOfEnd
  | ["move", first, second] =>
    match Square.read first, Square.read second with
    | .ok source, .ok target => game.outcomeOfMove source target
    | _, _ => .misunderstood
  | ["moves", first] =>
    match Square.read first with
    | .ok source => .listed (game.destinations source ≠ .ok [])
    | .error _ => .misunderstood
  | _ => .misunderstood

/-- A reply tells of an outcome: it has the outcome's number of lines and begins with its word. -/
structure Reply.Fits (reply : Reply) (outcome : Outcome) : Prop where
  size : reply.lines.length = outcome.size
  opens : outcome.opening.toList <+: reply.text.toList

/-- The text of a reply tells of an outcome: it is made of whole lines, as many as the outcome says,
and begins with the outcome's word. -/
structure Reply.Framed (reply : Reply) (outcome : Outcome) : Prop where
  closed : reply.text = "" ∨ reply.text.toList.getLast? = some '\n'
  counted : reply.text.toList.count '\n' = outcome.size
  opens : outcome.opening.toList <+: reply.text.toList

theorem Reply.Fits.framed {reply : Reply} {outcome : Outcome} (fits : reply.Fits outcome)
    (unbroken : ∀ line ∈ reply.lines, Text.Unbroken line) : reply.Framed outcome where
  closed := by
    rcases Text.getLast?_join_lines reply.lines with empty | last
    · rw [Reply.text, empty]
      exact .inl rfl
    · exact .inr last
  counted := (Text.count_lineFeed_join unbroken).trans fits.size
  opens := fits.opens

/-- What a reply begins with can be seen in its first line. -/
theorem Reply.Fits.of_first {reply : Reply} {outcome : Outcome} {line : String} {rest : List String}
    (lines : reply.lines = line :: rest) (size : rest.length + 1 = outcome.size)
    (opens : outcome.opening.toList <+: (line ++ "\n").toList) : reply.Fits outcome where
  size := by rw [lines, List.length_cons, size]
  opens := by
    rw [Reply.text, lines, Text.toList_join_lines, List.flatMap_cons]
    rw [String.toList_append] at opens
    exact opens.trans (List.prefix_append _ _)

/-- A line that is not understood comes to nothing else, whatever the game. -/
theorem Command.Spells.outcome_of_complaint {words : List String} {complaint : Complaint}
    (spells : Command.Spells words (.error complaint)) (game : Game) :
    game.outcome words = .misunderstood := by
  cases spells with
  | moveFromNowhere second astray => simp only [Game.outcome, astray]
  | moveToNowhere readFirst astray => simp only [Game.outcome, readFirst, astray]
  | movesFromNowhere astray => simp only [Game.outcome, astray]
  | @moveMiscounted arguments miscounted =>
    match arguments, miscounted with
    | [], _ | [_], _ | _ :: _ :: _ :: _, _ => rfl
  | @movesMiscounted arguments miscounted =>
    match arguments, miscounted with
    | [], _ | _ :: _ :: _, _ => rfl
  | unknown unnamed rest =>
    unfold Game.outcome
    split
    -- Every pattern but the last begins with a word that is taken.
    all_goals first
      | rfl
      | rename_i heading
        cases heading <;> exact absurd (by decide) unnamed

namespace Console

variable {console : Console} {reply : Reply}

theorem opens_line (opening rest : String) :
    opening.toList <+: (toString opening ++ toString rest ++ "\n").toList := by
  rw [String.append_assoc, String.toList_append]
  exact List.prefix_append _ _

/-- The status line tells whether the game goes on. -/
theorem statusText_opens (game : Game) :
    (Outcome.reported (game.status ≠ .inProgress)).opening.toList <+:
      (game.statusText ++ "\n").toList := by
  unfold Game.statusText
  -- Going on, drawn, or won by one side.
  rcases game.status with _ | _ | side
  · change "turn ".toList <+: _
    dsimp only
    split
    · rw [show toString "turn " ++ toString game.toMove.name ++ toString " check" =
        "turn " ++ (game.toMove.name ++ " check") from String.append_assoc]
      exact opens_line "turn " (game.toMove.name ++ " check")
    · exact opens_line "turn " game.toMove.name
  · change "over ".toList <+: "over draw\n".toList
    decide
  · exact opens_line "over " side.name

theorem historyLines_fits (game : Game) :
    (console.say (historyLines game)).Fits (.recounted game.plyCount) := by
  unfold Game.plyCount historyLines
  cases game.plies with
  | nil => exact .of_first rfl rfl List.prefix_rfl
  | cons ply rest =>
    refine .of_first rfl ?_ ?_
    · simp [Outcome.size]
    · change "1 ".toList <+: (historyLine ply 1 ++ "\n").toList
      have number : toString 1 = "1" := rfl
      simp only [historyLine, number, String.toList_append, List.append_assoc]
      exact ⟨_, rfl⟩

theorem diagramLines_fits (board : Board) :
    (console.say (board.diagramLines.map String.ofList)).Fits .pictured := by
  have lines : board.diagramLines.map String.ofList =
      String.ofList (board.rowLine 0) ::
        (((List.finRange 10).tail.map board.rowLine) ++ [Board.columnLine]).map String.ofList := rfl
  refine .of_first lines rfl ?_
  rw [String.toList_append, String.toList_ofList, Board.rowLine]
  exact ⟨_, rfl⟩

theorem listing_opens (squares : List Square) :
    (Outcome.listed (squares ≠ [])).opening.toList <+:
      (String.join ("moves" :: squares.map (" " ++ ·.text)) ++ "\n").toList := by
  cases squares with
  | nil => decide
  | cons sq rest =>
    change "moves ".toList <+: _
    simp only [String.toList_append, String.toList_join, List.map_cons, List.flatMap_cons,
      List.append_assoc]
    exact ⟨_, rfl⟩

theorem outcome_of_conclusion {game : Game} {name : String} {command : Command}
    {winner : Option Side} (concludes : command.conclusion? game.toMove = some winner)
    (named : (name, command) ∈ Command.plain) {rest : List String} :
    game.outcome (name :: rest) = game.outcomeOfEnd := by
  cases command with
  | resign =>
    obtain rfl : name = "resign" := Command.name_eq_of_mem_plain named (by decide)
    rfl
  | draw =>
    obtain rfl : name = "draw" := Command.name_eq_of_mem_plain named (by decide)
    rfl
  | _ => cases concludes

/-- A command by itself is answered as its name says. -/
theorem Performed.fits_plain {name : String} {command : Command}
    (performed : console.Performed command reply) (named : (name, command) ∈ Command.plain)
    (rest : List String) : reply.Fits (console.game.outcome (name :: rest)) := by
  have called : ∀ {other}, (other, command) ∈ Command.plain → name = other :=
    Command.name_eq_of_mem_plain named
  cases performed with
  | newGame begun =>
    obtain rfl : name = "new" := called (by decide)
    exact .of_first rfl rfl List.prefix_rfl
  | status =>
    obtain rfl : name = "status" := called (by decide)
    exact .of_first rfl rfl (statusText_opens console.game)
  | board =>
    obtain rfl : name = "board" := called (by decide)
    exact diagramLines_fits console.game.board
  | history =>
    obtain rfl : name = "history" := called (by decide)
    exact historyLines_fits console.game
  | quit =>
    obtain rfl : name = "quit" := called (by decide)
    exact ⟨rfl, List.nil_prefix⟩
  | @concluded _ winner next concludes finished =>
    obtain ⟨live, concluded⟩ := Game.status_of_finish finished
    have opens := statusText_opens next
    rw [concluded] at opens
    rw [outcome_of_conclusion concludes named, Game.outcomeOfEnd, if_pos live]
    exact .of_first rfl rfl opens
  | @tooLate _ _ reason concludes refused =>
    have tooLate := Game.over_of_finish_eq_error refused
    rw [outcome_of_conclusion concludes named, Game.outcomeOfEnd, if_neg tooLate]
    exact .of_first rfl rfl (opens_line "rejected " reason.message)
  | moved | decided | refused | moves => simp [Command.plain] at named

theorem Performed.fits_move {first second : String} {source target : Square}
    (performed : console.Performed (.move source target) reply)
    (readFirst : Square.read first = .ok source) (readSecond : Square.read second = .ok target) :
    reply.Fits (console.game.outcome ["move", first, second]) := by
  have outcome : console.game.outcome ["move", first, second] =
      console.game.outcomeOfMove source target := by
    simp only [Game.outcome, readFirst, readSecond]
  rw [outcome, Game.outcomeOfMove]
  cases performed with
  | @moved _ _ ply game played live =>
    have goesOn : decide (game.status ≠ .inProgress) = false := decide_eq_false (not_not.mpr live)
    simp only [played, goesOn]
    exact .of_first rfl rfl (opens_line "ok " ply.wxf)
  | @decided _ _ ply game played finished =>
    have decided : decide (game.status ≠ .inProgress) = true := decide_eq_true finished
    simp only [played, decided]
    exact .of_first rfl rfl (opens_line "ok " ply.wxf)
  | @refused _ _ reason refused =>
    simp only [refused]
    exact .of_first rfl rfl (opens_line "rejected " reason.message)
  | concluded concludes | tooLate concludes => cases concludes

theorem Performed.fits_moves {first : String} {source : Square}
    (performed : console.Performed (.moves source) reply)
    (readFirst : Square.read first = .ok source) :
    reply.Fits (console.game.outcome ["moves", first]) := by
  cases performed with
  | @moves _ squares listed =>
    simp only [Game.outcome, readFirst, listed, ne_eq, Except.ok.injEq]
    exact .of_first rfl rfl (listing_opens squares)
  | concluded concludes | tooLate concludes => cases concludes

/-- A line is answered with what its words come to. -/
theorem Answered.fits {words : List String} {read : Except Complaint (Option Command)}
    (answered : console.Answered read reply) (spells : Command.Spells words read) :
    reply.Fits (console.game.outcome words) := by
  cases answered with
  | blank =>
    cases spells
    exact ⟨rfl, List.nil_prefix⟩
  | complaint complaint =>
    rw [spells.outcome_of_complaint]
    exact .of_first rfl rfl (opens_line "error " complaint.message)
  | command performed =>
    cases spells with
    | plain named rest => exact performed.fits_plain named rest
    | move readFirst readSecond => exact performed.fits_move readFirst readSecond
    | moves readFirst => exact performed.fits_moves readFirst

/-- Whatever lines a console has been given since it was started, the text that answers the next one
is made of whole lines. How many they are and which word comes first is fixed by what the words of
the line come to. -/
theorem replies_framed {settings : Settings} {placement : Option Placement}
    (started : start settings placement = .ok console) (lines : List String) (line : String) :
    ∃ reached reply, console.after lines = .ok reached ∧ reached.respond line = .ok reply ∧
      reply.Framed (reached.game.outcome (Command.words line)) := by
  obtain ⟨reached, went, plays⟩ := (plays_of_start started).exists_after lines
  obtain ⟨reply, responded, answered⟩ := plays.respond line
  have spells : Command.Spells (Command.words line) (Command.ofLine line) :=
    Command.spells_ofWords _
  have input : ∀ word ∈ Command.words line, Text.Unbroken word := by
    intro word member
    obtain ⟨letters, inLine, rfl⟩ := List.mem_map.mp member
    exact Text.unbroken_of_mem_words inLine
  refine ⟨reached, reply, went, responded, ?_⟩
  exact (answered.fits spells).framed (answered.unbroken spells plays input)

/-- After a line that is not understood, a chariot mates along the back rank: two lines, and the
first accepts the move. -/
theorem replies_framed_mate :
    let placement := [⟨.general, .red, 9, 3⟩, ⟨.general, .black, 0, 4⟩, ⟨.chariot, .red, 1, 8⟩,
      ⟨.chariot, .red, 5, 0⟩]
    ∃ console reached reply, start {} (some placement) = .ok console ∧
      console.after ["fly\nmove 5,0 0,0"] = .ok reached ∧
      reached.respond " move 5,0\n0,0" = .ok reply ∧
      reply.text.toList.count '\n' = 2 ∧ "ok ".toList <+: reply.text.toList := by
  intro placement
  have mates : (start {} (some placement)).toOption.map (fun console =>
      (console.after ["fly\nmove 5,0 0,0"]).toOption.map fun reached =>
        reached.game.outcome (Command.words " move 5,0\n0,0")) = some (some (.accepted true)) := by
    decide +kernel
  obtain ⟨console, started, seen⟩ := Fallible.exists_ok_of_map_eq_some mates
  obtain ⟨reached, reply, went, responded, framed⟩ :=
    replies_framed started ["fly\nmove 5,0 0,0"] " move 5,0\n0,0"
  rw [went, Except.toOption, Option.map_some, Option.some.injEq] at seen
  rw [seen] at framed
  exact ⟨console, reached, reply, started, went, responded, framed.counted, framed.opens⟩

end Console

end Xiangqi
