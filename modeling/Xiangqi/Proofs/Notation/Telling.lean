import Xiangqi.Proofs.Notation.Characters
import Xiangqi.Proofs.Reach

/-!
# What the text of a move tells

A text tells its move apart from all other moves of the side, as long as pieces of one kind do not
crowd on files: no file holds three of them, and no two files hold two each. Then the letter and what
follows it tell the piece (`source_eq_of_origin_eq`), and the other two characters tell where it goes,
since the rule of its kind leaves one target at most for a sign and a number (`target_eq_of_operand_eq`).
-/

namespace Xiangqi

namespace Board

/-- The number of the side's pieces of the kind on a file. -/
def onFile (board : Board) (side : Side) (kind : Kind) (col : Fin 9) : Nat :=
  (board.army side).countP fun piece => piece.kind == kind && piece.position.col == col

/-- The side's pieces of the kind are told apart by their files, and by their places on the one file
that may hold two. -/
structure Telling (board : Board) (side : Side) (kind : Kind) : Prop where
  atMostTwo : ∀ col, board.onFile side kind col ≤ 2
  onePair : ∀ col col', board.onFile side kind col = 2 → board.onFile side kind col' = 2 → col = col'

end Board

namespace Notation

variable {board : Board} {piece other : Piece} {source source' target target' : Square}

/-- A list of two holds nothing besides two different members. -/
theorem eq_or_eq_of_length_two {α : Type} {items : List α} {a b c : α} (two : items.length = 2)
    (memberA : a ∈ items) (memberB : b ∈ items) (apart : a ≠ b) (memberC : c ∈ items) :
    c = a ∨ c = b := by
  obtain ⟨first, second, same⟩ := List.length_eq_two.mp two
  subst same
  simp only [List.mem_cons, List.not_mem_nil, or_false] at memberA memberB memberC
  grind

theorem eq_of_length_le_one {α : Type} {items : List α} {a b : α} (one : items.length ≤ 1)
    (memberA : a ∈ items) (memberB : b ∈ items) : a = b := by
  match items with
  | [] => cases memberA
  | [only] =>
    rw [List.mem_singleton] at memberA memberB
    rw [memberA, memberB]
  | _ :: _ :: _ => simp at one

theorem length_sharers (board : Board) (piece : Piece) (source : Square) :
    (sharers board piece source).length = board.onFile piece.side piece.kind source.col := by
  rw [sharers, Board.onFile, List.countP_eq_length_filter]

theorem mem_sharers_of_pieceOn (inPlace : board.InPlace)
    (stands : board.pieceOn source' = some other) (sides : other.side = piece.side)
    (kinds : other.kind = piece.kind) (cols : source'.col = source.col) :
    other ∈ sharers board piece source := by
  rw [sharers, List.mem_filter]
  constructor
  · exact Board.mem_army.mpr ⟨⟨source', stands⟩, sides⟩
  · simp [kinds, inPlace source' other stands, cols]

theorem origin_of_not_pair (single : board.onFile piece.side piece.kind source.col ≠ 2) :
    origin board piece source = Nat.digitChar (fileNumber source piece.side) := by
  unfold origin
  simp only [length_sharers, if_neg single]

/-- The mark of one of two pieces on a file: `+` if the other one is not in front of it. -/
theorem origin_of_pair (inPlace : board.InPlace) (stands : board.pieceOn source = some piece)
    (otherStands : board.pieceOn source' = some other) (sides : other.side = piece.side)
    (kinds : other.kind = piece.kind) (cols : source'.col = source.col) (apart : source ≠ source')
    (pair : board.onFile piece.side piece.kind source.col = 2) :
    origin board piece source = if 0 ≤ gain piece.side source' source then '+' else '-' := by
  have position := inPlace source piece stands
  have otherPosition := inPlace source' other otherStands
  have member : piece ∈ sharers board piece source :=
    mem_sharers_of_pieceOn inPlace stands rfl rfl rfl
  have otherMember := mem_sharers_of_pieceOn inPlace otherStands sides kinds cols
  have distinct : piece ≠ other := by
    intro one
    rw [← position, ← otherPosition, one] at apart
    exact apart rfl
  have two : (sharers board piece source).length = 2 := by rw [length_sharers, pair]
  have front : (∀ sharer ∈ sharers board piece source,
      0 ≤ gain piece.side sharer.position source) ↔ 0 ≤ gain piece.side source' source := by
    constructor
    · intro first
      have ahead := first other otherMember
      rw [otherPosition] at ahead
      exact ahead
    · intro ahead sharer sharing
      rcases eq_or_eq_of_length_two two member otherMember distinct sharing with same | same
      · have level := gain_swap piece.side source source
        rw [same, position]
        omega
      · rw [same, otherPosition]
        exact ahead
  unfold origin
  simp only [two, if_true, List.all_eq_true, decide_eq_true_eq, front]

/-- Of two pieces on one file one is in front. -/
theorem origin_ne_of_pair (inPlace : board.InPlace) (stands : board.pieceOn source = some piece)
    (otherStands : board.pieceOn source' = some other) (sides : other.side = piece.side)
    (kinds : other.kind = piece.kind) (cols : source'.col = source.col) (apart : source ≠ source')
    (pair : board.onFile piece.side piece.kind source.col = 2) :
    origin board piece source ≠ origin board other source' := by
  have alsoPair : board.onFile other.side other.kind source'.col = 2 := by
    rw [sides, kinds, cols, pair]
  have swap := gain_swap piece.side source source'
  have uneven : gain piece.side source source' ≠ 0 := by
    intro level
    have rows : source'.rank = source.rank := by
      have still := gain_swap piece.side source source
      have same : gain piece.side source source' = gain piece.side source source := by omega
      exact rank_eq_of_gain_eq same
    apply apart
    rw [Square.eq_iff, ← Square.col_eq_iff]
    exact ⟨rows.symm, cols.symm⟩
  rw [origin_of_pair inPlace stands otherStands sides kinds cols apart pair,
    origin_of_pair inPlace otherStands stands sides.symm kinds.symm cols.symm apart.symm alsoPair,
    sides]
  by_cases ahead : 0 ≤ gain piece.side source' source
  · rw [if_pos ahead, if_neg (by omega)]
    decide
  · rw [if_neg ahead, if_pos (by omega)]
    decide

/-- A mark is not a number. -/
theorem origin_ne_of_single {marked : Char} (mark : marked = '+' ∨ marked = '-')
    (single : board.onFile piece.side piece.kind source.col ≠ 2) :
    marked ≠ origin board piece source := by
  obtain ⟨positive, small⟩ := fileNumber_bounds source piece.side
  have number := digitChar_mem_numbers positive small
  rw [origin_of_not_pair single]
  intro same
  rw [← same] at number
  rcases mark with plus | minus
  · rw [plus] at number
    exact absurd number (by decide)
  · rw [minus] at number
    exact absurd number (by decide)

theorem origin_mark (pair : board.onFile piece.side piece.kind source.col = 2) :
    origin board piece source = '+' ∨ origin board piece source = '-' := by
  unfold origin
  simp only [length_sharers, pair, if_true]
  split <;> simp

/-- A piece of the kind is told by what stands for its source. -/
theorem source_eq_of_origin_eq (inPlace : board.InPlace)
    (telling : board.Telling piece.side piece.kind) (stands : board.pieceOn source = some piece)
    (otherStands : board.pieceOn source' = some other) (sides : other.side = piece.side)
    (kinds : other.kind = piece.kind)
    (same : origin board piece source = origin board other source') : source = source' := by
  by_contra apart
  -- One of two on a file is written as a mark, any other as a number, and a mark is not a number. So
  -- either both files hold two, and then they are one file, or both pieces are written by their files.
  by_cases pair : board.onFile piece.side piece.kind source.col = 2
  · by_cases otherPair : board.onFile other.side other.kind source'.col = 2
    · have cols : source'.col = source.col := by
        rw [sides, kinds] at otherPair
        exact telling.onePair _ _ otherPair pair
      exact origin_ne_of_pair inPlace stands otherStands sides kinds cols apart pair same
    · exact origin_ne_of_single (origin_mark pair) otherPair same
  · by_cases otherPair : board.onFile other.side other.kind source'.col = 2
    · exact origin_ne_of_single (origin_mark otherPair) pair same.symm
    · rw [origin_of_not_pair pair, origin_of_not_pair otherPair, sides] at same
      have cols := col_eq_of_digitChar_eq same
      have bound := telling.atMostTwo source.col
      have one : (sharers board piece source).length ≤ 1 := by
        rw [length_sharers]
        omega
      have member : piece ∈ sharers board piece source :=
        mem_sharers_of_pieceOn inPlace stands rfl rfl rfl
      have otherMember := mem_sharers_of_pieceOn inPlace otherStands sides kinds cols.symm
      have only := eq_of_length_le_one one member otherMember
      rw [← inPlace source piece stands, ← inPlace source' other otherStands, only] at apart
      exact apart rfl

/-- Kinds whose moves are told by their length stay on a row or a column. -/
theorem inLine_of_reaches (counts : namesFile piece.kind = false)
    (reaches : board.reaches piece target = true) : piece.position.InLine target := by
  have rule := (Board.reaches_iff.mp reaches).2
  unfold Board.obeys at rule
  cases kind : piece.kind with
  | general =>
    simp only [kind, Board.generalReaches] at rule
    split at rule
    · rename_i step
      rw [Square.InLine, Square.row_eq_iff, Square.col_eq_iff]
      unfold Square.rowsTo Square.colsTo at step
      omega
    · simp only [Bool.and_eq_true, beq_iff_eq] at rule
      exact Board.inLine_of_between? rule.2
  | chariot =>
    simp only [kind, Board.chariotReaches, beq_iff_eq] at rule
    exact Board.inLine_of_between? rule
  | cannon =>
    simp only [kind, Board.cannonReaches, beq_iff_eq] at rule
    exact Board.inLine_of_between? rule
  | pawn =>
    simp only [kind, Board.pawnReaches, Bool.or_eq_true, Bool.and_eq_true, beq_iff_eq] at rule
    rw [Square.InLine, Square.row_eq_iff, Square.col_eq_iff]
    unfold Square.rowsTo Square.colsTo at rule
    omega
  | advisor | elephant | horse => simp [kind, namesFile] at counts

/-- Kinds whose moves are told by their files go as many rows to each target on a file. -/
theorem natAbs_rowsTo_eq_of_reaches (names : namesFile piece.kind = true)
    (reaches : board.reaches piece target = true) (alsoReaches : board.reaches piece target' = true)
    (cols : target.col = target'.col) :
    (piece.position.rowsTo target).natAbs = (piece.position.rowsTo target').natAbs := by
  have rule := (Board.reaches_iff.mp reaches).2
  have alsoRule := (Board.reaches_iff.mp alsoReaches).2
  have across : piece.position.colsTo target = piece.position.colsTo target' := by
    rw [Square.col_eq_iff] at cols
    rw [Square.colsTo, Square.colsTo, cols]
  unfold Board.obeys at rule alsoRule
  cases kind : piece.kind with
  | advisor =>
    simp only [kind, Board.advisorReaches, Bool.and_eq_true, beq_iff_eq] at rule alsoRule
    omega
  | elephant =>
    simp only [kind, Board.elephantReaches_iff] at rule alsoRule
    omega
  | horse =>
    simp only [kind, Board.horseReaches_iff] at rule alsoRule
    omega
  | general | chariot | cannon | pawn => simp [kind, namesFile] at names

/-- Among the squares that a piece reaches, the sign and the last character tell the target. -/
theorem target_eq_of_operand_eq (reaches : board.reaches piece target = true)
    (alsoReaches : board.reaches piece target' = true)
    (signs : course (gain piece.side piece.position target) =
      course (gain piece.side piece.position target'))
    (operands : operand piece piece.position target = operand piece piece.position target') :
    target = target' := by
  unfold operand at operands
  cases names : namesFile piece.kind with
  | true =>
    simp only [names, Bool.true_or, if_true] at operands
    have cols := col_eq_of_digitChar_eq operands
    have rows := natAbs_rowsTo_eq_of_reaches names reaches alsoReaches cols
    have gains := eq_of_course_eq signs (by rw [natAbs_gain, natAbs_gain]; exact rows)
    rw [Square.eq_iff, ← Square.col_eq_iff]
    exact ⟨rank_eq_of_gain_eq gains, cols⟩
  | false =>
    have sideways : gain piece.side piece.position target = 0 ↔
        gain piece.side piece.position target' = 0 := by
      rw [← course_eq_sideways_iff, signs, course_eq_sideways_iff]
    have small := natAbs_gain_le piece.side piece.position target
    have alsoSmall := natAbs_gain_le piece.side piece.position target'
    simp only [names, Bool.false_or, beq_iff_eq, ← sideways] at operands
    -- The last character is a file if the move is sideways, and a number of rows otherwise.
    by_cases level : gain piece.side piece.position target = 0
    · rw [if_pos level, if_pos level] at operands
      rw [Square.eq_iff, ← Square.col_eq_iff]
      have gains := level.trans (sideways.mp level).symm
      exact ⟨rank_eq_of_gain_eq gains, col_eq_of_digitChar_eq operands⟩
    · rw [if_neg level, if_neg level] at operands
      have gains := eq_of_course_eq signs (digitChar_inj (by omega) (by omega) operands)
      have rows := rank_eq_of_gain_eq gains
      have line := inLine_of_reaches names reaches
      have alsoLine := inLine_of_reaches names alsoReaches
      have moves := natAbs_gain piece.side piece.position target
      rw [Square.InLine, Square.row_eq_iff, Square.col_eq_iff] at line alsoLine
      rw [Square.eq_iff]
      omega

/-- Moves of one side that are written alike are the same move, if the text tells the pieces of the
kind apart. -/
theorem move_eq_of_describe?_eq (inPlace : board.InPlace)
    (telling : board.Telling piece.side piece.kind) (stands : board.pieceOn source = some piece)
    (otherStands : board.pieceOn source' = some other) (sides : other.side = piece.side)
    (reaches : board.reaches piece target = true)
    (otherReaches : board.reaches other target' = true)
    (same : describe? board source target = describe? board source' target') :
    source = source' ∧ target = target' := by
  obtain ⟨glyphs, origins, signs, operands⟩ := write_eq_of_describe?_eq stands otherStands same
  have kinds := Piece.kind_eq_of_glyph_eq sides glyphs.symm
  have sources := source_eq_of_origin_eq inPlace telling stands otherStands sides kinds origins
  subst sources
  rw [stands, Option.some.injEq] at otherStands
  subst otherStands
  rw [← inPlace source piece stands] at signs operands
  exact ⟨rfl, target_eq_of_operand_eq reaches otherReaches signs operands⟩

end Notation

end Xiangqi
