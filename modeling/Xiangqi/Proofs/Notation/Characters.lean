import Xiangqi.Notation
import Xiangqi.Proofs.Board.Line

/-!
# The characters of a move

What each of the four characters of a move can be, and what it tells: the letter tells the kind, the
number of a file its column, the sign whether rows are gained, and the last character a column or a
number of rows.
-/

namespace Xiangqi

theorem Piece.kind_eq_of_glyph_eq {a b : Piece} (sides : a.side = b.side)
    (glyphs : a.glyph = b.glyph) : a.kind = b.kind := by
  unfold Piece.glyph at glyphs
  rw [sides] at glyphs
  cases side : b.side with
  | red =>
    rw [side] at glyphs
    exact Kind.letter_injective glyphs
  | black =>
    rw [side] at glyphs
    exact Kind.smallLetter_injective glyphs

namespace Notation

/-- The letters of the pieces, Red's and Black's. -/
def letters : List Char := "KAEHRCPkaehrcp".toList

/-- The numbers of files, and of rows. -/
def numbers : List Char := "123456789".toList

/-- The text is that of some move: a letter, a file or a place on a file, a sign, and a number. -/
def Written (text : String) : Prop :=
  ∃ letter ∈ letters, ∃ origin ∈ '+' :: '-' :: numbers, ∃ course ∈ ['+', '-', '.'],
    ∃ operand ∈ numbers, text.toList = [letter, origin, course, operand]

variable {board : Board} {piece : Piece} {source target a b : Square} {side : Side} {m n : Nat}

theorem digitChar_inj (small : m < 10) (alsoSmall : n < 10)
    (same : Nat.digitChar m = Nat.digitChar n) : m = n := by
  have codes := congrArg Char.toNat same
  rw [Nat.toNat_digitChar_of_lt_ten small, Nat.toNat_digitChar_of_lt_ten alsoSmall] at codes
  omega

theorem digitChar_mem_numbers (positive : 1 ≤ n) (small : n ≤ 9) :
    Nat.digitChar n ∈ numbers := by
  have each : ∀ n < 10, 1 ≤ n → Nat.digitChar n ∈ numbers := by decide
  exact each n (by omega) positive

theorem fileNumber_bounds (sq : Square) (side : Side) :
    1 ≤ fileNumber sq side ∧ fileNumber sq side ≤ 9 := by
  have col := sq.col.isLt
  cases side <;> simp only [fileNumber] <;> omega

theorem col_eq_of_fileNumber_eq (same : fileNumber a side = fileNumber b side) : a.col = b.col := by
  have colA := a.col.isLt
  have colB := b.col.isLt
  apply Fin.ext
  cases side <;> simp only [fileNumber] at same <;> omega

/-- The digit of a file tells the column. -/
theorem col_eq_of_digitChar_eq
    (same : Nat.digitChar (fileNumber a side) = Nat.digitChar (fileNumber b side)) :
    a.col = b.col := by
  have boundsA := fileNumber_bounds a side
  have boundsB := fileNumber_bounds b side
  exact col_eq_of_fileNumber_eq (digitChar_inj (by omega) (by omega) same)

/-- Rows are gained or lost as many as lie between the squares. -/
theorem natAbs_gain (side : Side) (source target : Square) :
    (gain side source target).natAbs = (target.rank - source.rank).natAbs := by
  unfold gain
  cases side <;> simp only [Side.heading] <;> omega

theorem natAbs_gain_le (side : Side) (source target : Square) :
    (gain side source target).natAbs ≤ 9 := by
  have here := source.rank_bounds
  have there := target.rank_bounds
  rw [natAbs_gain]
  omega

theorem gain_swap (side : Side) (source target : Square) :
    gain side target source = -gain side source target := by
  unfold gain
  cases side <;> simp only [Side.heading] <;> omega

/-- From one square, the same gain leads to the same row. -/
theorem rank_eq_of_gain_eq (same : gain side source a = gain side source b) : a.rank = b.rank := by
  unfold gain at same
  cases side <;> simp only [Side.heading] at same <;> omega

/-- The sign of a move by its gain: forward, backward or sideways. -/
theorem course_cases (gained : Int) :
    (0 < gained ∧ course gained = '+') ∨ (gained < 0 ∧ course gained = '-') ∨
      (gained = 0 ∧ course gained = '.') := by
  unfold course
  by_cases forward : 0 < gained
  · exact .inl ⟨forward, if_pos forward⟩
  · by_cases backward : gained < 0
    · exact .inr (.inl ⟨backward, by rw [if_neg forward, if_pos backward]⟩)
    · exact .inr (.inr ⟨by omega, by rw [if_neg forward, if_neg backward]⟩)

theorem course_eq_sideways_iff (gained : Int) : course gained = '.' ↔ gained = 0 := by
  rcases course_cases gained with ⟨forward, sign⟩ | ⟨backward, sign⟩ | ⟨sideways, sign⟩
  · rw [sign]
    simp [Int.ne_of_gt forward]
  · rw [sign]
    simp [Int.ne_of_lt backward]
  · exact iff_of_true sign sideways

/-- The sign of a move and its number of rows tell the gain. -/
theorem eq_of_course_eq {x y : Int} (signs : course x = course y) (sizes : x.natAbs = y.natAbs) :
    x = y := by
  rcases course_cases x with ⟨first, signX⟩ | ⟨first, signX⟩ | ⟨first, signX⟩ <;>
    rcases course_cases y with ⟨second, signY⟩ | ⟨second, signY⟩ | ⟨second, signY⟩
  all_goals first
    | omega
    | (rw [signX, signY] at signs
       exact absurd signs (by decide))

theorem glyph_mem_letters (piece : Piece) : piece.glyph ∈ letters := by
  unfold Piece.glyph
  cases piece.side <;> cases piece.kind <;> decide

theorem origin_mem (board : Board) (piece : Piece) (source : Square) :
    origin board piece source ∈ '+' :: '-' :: numbers := by
  obtain ⟨positive, small⟩ := fileNumber_bounds source piece.side
  unfold origin
  dsimp only
  split
  · split <;> simp
  · simp [digitChar_mem_numbers positive small]

theorem operand_mem (piece : Piece) (source target : Square) :
    operand piece source target ∈ numbers := by
  obtain ⟨positive, small⟩ := fileNumber_bounds target piece.side
  have rows := natAbs_gain_le piece.side source target
  unfold operand
  dsimp only
  split
  · exact digitChar_mem_numbers positive small
  · rename_i counted
    simp only [Bool.or_eq_true, beq_iff_eq, not_or] at counted
    exact digitChar_mem_numbers (by omega) rows

/-- There is no text exactly for a free square. -/
theorem describe?_eq_none_iff :
    describe? board source target = none ↔ board.pieceOn source = none := by
  rw [describe?, Option.map_eq_none_iff]

theorem written_of_describe? {text : String} (described : describe? board source target = some text) :
    Written text := by
  obtain ⟨piece, -, same⟩ := Option.map_eq_some_iff.mp described
  subst same
  have course : course (gain piece.side source target) ∈ ['+', '-', '.'] := by
    rcases course_cases (gain piece.side source target) with ⟨-, sign⟩ | ⟨-, sign⟩ | ⟨-, sign⟩ <;>
      rw [sign] <;> decide
  exact ⟨_, glyph_mem_letters piece, _, origin_mem board piece source, _, course, _,
    operand_mem piece source target, String.toList_ofList⟩

/-- Moves that are written alike agree in each of the four characters. -/
theorem write_eq_of_describe?_eq {other : Piece} {source' target' : Square}
    (stands : board.pieceOn source = some piece) (otherStands : board.pieceOn source' = some other)
    (same : describe? board source target = describe? board source' target') :
    piece.glyph = other.glyph ∧ origin board piece source = origin board other source' ∧
      course (gain piece.side source target) = course (gain other.side source' target') ∧
      operand piece source target = operand other source' target' := by
  rw [describe?, describe?, stands, otherStands, Option.map_some, Option.map_some,
    Option.some.injEq, String.ofList_inj] at same
  simpa [write] using same

end Notation

end Xiangqi
