import Xiangqi.Proofs.Board.Diagram
import Xiangqi.Proofs.Console.Reply
import Xiangqi.Proofs.History
import Xiangqi.Proofs.Notation.Characters

/-!
# What a console writes stays within its lines

A reply is a list of lines, so a host can count them only if no line feed hides inside one. Most of
what is written is put together from fixed wordings, names, numbers and squares. Two parts come from
elsewhere: a word of the input is echoed in complaints, and words hold no white space; and the
notation of a move is taken from its record, which was written by the rules of notation.
-/

namespace Xiangqi

open Text (Unbroken unbroken_append_iff unbroken_toString)

@[simp] theorem Side.unbroken_name (side : Side) : Unbroken side.name := by
  cases side <;> decide

@[simp] theorem Square.unbroken_text (sq : Square) : Unbroken sq.text := by
  simp only [Square.text, unbroken_append_iff, unbroken_toString, Text.unbroken_toString_nat,
    and_true]
  decide

@[simp] theorem Move.unbroken_text (move : Move) : Unbroken move.text := by
  simp only [Move.text, unbroken_append_iff, unbroken_toString, Square.unbroken_text, and_true,
    true_and]
  decide

theorem Refusal.unbroken_message (reason : Refusal) : Unbroken reason.message := by
  unfold Refusal.message
  cases reason with
  | gameOver => decide +kernel
  | noPiece | notYourPiece | unreachable | exposesGeneral =>
    simp only [unbroken_append_iff, unbroken_toString, Square.unbroken_text, Side.unbroken_name,
      and_true]
    decide +kernel

/-- A word that names no square may be quoted. -/
theorem Square.unbroken_message_of_read {word : String} {error : SetupError}
    (astray : Square.read word = .error error) (unbroken : Unbroken word) :
    Unbroken error.message := by
  unfold Square.read at astray
  split at astray
  · rename_i row col _
    unfold Square.locate at astray
    split at astray
    · cases astray
    · cases astray
      unfold SetupError.message
      simp only [unbroken_append_iff, unbroken_toString, Text.unbroken_toString_int, and_true]
      decide +kernel
  · cases astray
    unfold SetupError.message
    simp only [unbroken_append_iff, unbroken_toString, unbroken, and_true]
    decide +kernel

/-- A complaint quotes a word of its line or nothing. -/
theorem Command.Spells.unbroken_message {words : List String} {complaint : Complaint}
    (spells : Command.Spells words (.error complaint)) (unbroken : ∀ word ∈ words, Unbroken word) :
    Unbroken complaint.message := by
  cases spells with
  | moveFromNowhere second astray =>
    exact Square.unbroken_message_of_read astray (unbroken _ (by simp))
  | moveToNowhere readFirst astray =>
    exact Square.unbroken_message_of_read astray (unbroken _ (by simp))
  | movesFromNowhere astray =>
    exact Square.unbroken_message_of_read astray (unbroken _ (by simp))
  | moveMiscounted miscounted => decide +kernel
  | movesMiscounted miscounted => decide +kernel
  | unknown unnamed rest =>
    have quoted := unbroken _ List.mem_cons_self
    unfold Complaint.message
    simp only [unbroken_append_iff, unbroken_toString, quoted, and_true]
    decide +kernel

theorem Game.unbroken_statusText (game : Game) : Unbroken game.statusText := by
  unfold Game.statusText
  split
  · split
    · simp only [unbroken_append_iff, unbroken_toString, Side.unbroken_name, and_true]
      decide
    · simp only [unbroken_append_iff, unbroken_toString, Side.unbroken_name, and_true]
      decide
  · simp only [unbroken_append_iff, unbroken_toString, Side.unbroken_name, and_true]
    decide
  · decide

/-- The four characters of a move are one word. -/
theorem Notation.isWord_of_describe? {board : Board} {source target : Square} {text : String}
    (described : describe? board source target = some text) : Text.IsWord text.toList := by
  obtain ⟨letter, isLetter, origin, isOrigin, course, isCourse, operand, isNumber, same⟩ :=
    written_of_describe? described
  have solid : (letters ++ '+' :: '-' :: '.' :: numbers).all (fun c => !Text.isBlank c) = true := by
    decide
  simp only [List.all_eq_true, Bool.not_eq_true'] at solid
  rw [same]
  refine ⟨List.cons_ne_nil _ _, ?_⟩
  intro c member
  apply solid
  grind

namespace Console

variable {console : Console} {reply : Reply}

/-- The moves of a game that a run led to are written as one word each. -/
theorem Plays.isWord_wxf (plays : console.Plays) {ply : Ply} (member : ply ∈ console.game.plies) :
    Text.IsWord ply.wxf.toList := by
  obtain ⟨start, actions, started, same⟩ := plays
  have begun := begun_of_newGame started
  rw [same] at member
  obtain ⟨i, recorded⟩ := List.getElem?_of_mem member
  obtain ⟨_, _, -, -, names⟩ :=
    Game.exists_action_of_ply begun.sound begun.plies_eq_nil actions recorded
  exact Notation.isWord_of_describe? names.wxf

theorem Plays.unbroken_of_play (plays : console.Plays) {source target : Square} {ply : Ply}
    {game : Game} (played : console.game.play source target = .ok (ply, game)) :
    Unbroken ply.wxf := by
  obtain ⟨-, -, -, names, -⟩ := plays.sound.record_of_play played
  exact (Notation.isWord_of_describe? names.wxf).unbroken

theorem unbroken_listing (squares : List Square) :
    Unbroken (String.join ("moves" :: squares.map (" " ++ ·.text))) := by
  rw [Unbroken, String.toList_join, List.flatMap_cons, List.flatMap_map, List.mem_append,
    List.mem_flatMap]
  rintro (word | ⟨sq, -, written⟩)
  · exact absurd word (by decide)
  · have unbroken : Unbroken (" " ++ sq.text) := by
      simp only [unbroken_append_iff, Square.unbroken_text, and_true]
      decide
    exact unbroken written

/-- What a command is answered with stays within its lines. -/
theorem Performed.unbroken {command : Command} (performed : console.Performed command reply)
    (plays : console.Plays) : ∀ line ∈ reply.lines, Unbroken line := by
  have accepted : ∀ {source target : Square} {ply : Ply} {game : Game},
      console.game.play source target = .ok (ply, game) → Unbroken s!"ok {ply.wxf}" := by
    intro source target ply game played
    simp only [unbroken_append_iff, unbroken_toString, plays.unbroken_of_play played, and_true]
    decide
  have rejected : ∀ reason : Refusal, Unbroken s!"rejected {reason.message}" := by
    intro reason
    simp only [unbroken_append_iff, unbroken_toString, reason.unbroken_message, and_true]
    decide
  cases performed with
  | newGame begun => exact List.forall_mem_singleton.mpr (by decide)
  | moved played live => exact List.forall_mem_singleton.mpr (accepted played)
  | @decided _ _ _ game played finished =>
    exact List.forall_mem_cons.mpr
      ⟨accepted played, List.forall_mem_singleton.mpr game.unbroken_statusText⟩
  | @refused _ _ reason refused => exact List.forall_mem_singleton.mpr (rejected reason)
  | moves listed => exact List.forall_mem_singleton.mpr (unbroken_listing _)
  | status => exact List.forall_mem_singleton.mpr console.game.unbroken_statusText
  | board =>
    intro line member
    obtain ⟨row, inDiagram, rfl⟩ := List.mem_map.mp member
    rw [Text.unbroken_ofList_iff]
    exact console.game.board.unbroken_of_mem_diagramLines inDiagram
  | history =>
    intro line member
    rcases List.mem_append.mp member with entry | last
    · obtain ⟨⟨ply, number⟩, numbered, rfl⟩ := List.mem_map.mp entry
      have recorded : ply ∈ console.game.plies := List.fst_mem_of_mem_zipIdx numbered
      simp only [historyLine, unbroken_append_iff, unbroken_toString, Text.unbroken_toString_nat,
        (plays.isWord_wxf recorded).unbroken, Move.unbroken_text, and_true, true_and]
      decide
    · rw [List.mem_singleton.mp last]
      decide
  | @concluded _ _ game concludes finished =>
    exact List.forall_mem_singleton.mpr game.unbroken_statusText
  | @tooLate _ _ reason concludes refused => exact List.forall_mem_singleton.mpr (rejected reason)
  | quit => exact List.forall_mem_nil _

/-- A host finds the first line of a reply in its text. -/
theorem firstLine_text {line : String} {rest : List String} (lines : reply.lines = line :: rest)
    (unbroken : ∀ line ∈ reply.lines, Unbroken line) : Text.firstLine reply.text = line := by
  rw [lines] at unbroken
  rw [Reply.text, lines]
  exact Text.firstLine_join_lines (unbroken line List.mem_cons_self) rest

/-- A line of input is answered with lines. -/
theorem Answered.unbroken {words : List String} {read : Except Complaint (Option Command)}
    (answered : console.Answered read reply) (spells : Command.Spells words read)
    (plays : console.Plays) (input : ∀ word ∈ words, Unbroken word) :
    ∀ line ∈ reply.lines, Unbroken line := by
  cases answered with
  | blank => exact List.forall_mem_nil _
  | complaint complaint =>
    have message := spells.unbroken_message input
    refine List.forall_mem_singleton.mpr ?_
    simp only [unbroken_append_iff, unbroken_toString, message, and_true]
    decide
  | command performed => exact performed.unbroken plays

end Console

end Xiangqi
