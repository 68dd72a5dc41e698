import Xiangqi.Proofs.Text.Decimal
import Xiangqi.Proofs.Text.Trim
import Xiangqi.Square.Reader

/-!
# The texts that name squares

`Square.Spelled` is the language of written coordinates: two integer literals with a comma between
them, white space around each of them and around the whole, and any number of parentheses before and
after. The reader finds two numbers in exactly the texts of this language
(`coordinates?_eq_some_iff`). The written form of a square, `(row,col)`, is one of them, so it is read
back, whatever white space surrounds it.
-/

namespace Xiangqi

namespace Text

variable {text : List Char} {c : Char}

theorem isBlank_eq_false_of_isDigit (digit : c.isDigit = true) : isBlank c = false := by
  simp only [Char.isDigit, Bool.and_eq_true, decide_eq_true_eq, ge_iff_le, UInt32.le_iff_toNat_le]
    at digit
  have low : 48 ≤ c.toNat := digit.1
  have high : c.toNat ≤ 57 := digit.2
  simp [isBlank, blankRanges]
  omega

theorem Literal.isWord {value : Int} (literal : Literal text value) : IsWord text where
  nonempty := literal.nonempty
  solid := by
    intro c member
    rcases literal.cases_of_mem member with digit | rfl | rfl
    · exact isBlank_eq_false_of_isDigit digit
    · decide
    · decide

theorem isWord_toDigits (n : Nat) : IsWord (Nat.toDigits 10 n) :=
  (literal_toDigits n).isWord

/-- Literals hold digits and signs only. -/
theorem Literal.beq_eq_false {value : Int} {mark : Char} (literal : Literal text value)
    (notDigit : mark.isDigit = false) (notPlus : mark ≠ '+') (notMinus : mark ≠ '-') :
    ∀ c ∈ text, (c == mark) = false := by
  intro c member
  rw [beq_eq_false_iff_ne]
  rintro rfl
  rcases literal.cases_of_mem member with digit | plus | minus
  · rw [notDigit] at digit
    cases digit
  · exact notPlus plus
  · exact notMinus minus

theorem Blank.beq_eq_false {mark : Char} (blank : Blank text) (solid : isBlank mark = false) :
    ∀ c ∈ text, (c == mark) = false := by
  intro c member
  rw [beq_eq_false_iff_ne]
  rintro rfl
  rw [blank c member] at solid
  cases solid

end Text

namespace Square

open Text

/-- The text spells a row and a column: two literals of 32-bit integers with a comma between them.
White space may stand around each of them and around the whole, and any number of parentheses before
and after, not necessarily in pairs. -/
inductive Spelled : List Char → Int32 → Int32 → Prop
  | intro {row col : Int32} {rowText colText : List Char} (rowLiteral : Literal rowText row.toInt)
    (colLiteral : Literal colText col.toInt) (opened closed : Nat)
    {before inside afterRow beforeCol afterCol after : List Char}
    (gaps : ∀ gap ∈ [before, inside, afterRow, beforeCol, afterCol, after], Blank gap) :
    Spelled (before ++ List.replicate opened '(' ++ inside ++ rowText ++ afterRow ++ [','] ++
      beforeCol ++ colText ++ afterCol ++ List.replicate closed ')' ++ after) row col

variable {text front back middle rowText colText afterRow beforeCol : List Char} {row col : Int32}
  {sq : Square}

theorem unwrap_eq (text : List Char) :
    unwrap text = ((trim text).dropWhile (· == '(')).rdropWhile (· == ')') := rfl

/-- What is unwrapped goes at most to the outer ends of the two literals. -/
theorem unwrap_around (rowLiteral : Literal rowText row.toInt)
    (colLiteral : Literal colText col.toInt) (front middle back : List Char) :
    unwrap (front ++ (rowText ++ (middle ++ (colText ++ back)))) =
      (front.dropWhile isBlank).dropWhile (· == '(') ++ (rowText ++ (middle ++
        (colText ++ (back.rdropWhile isBlank).rdropWhile (· == ')')))) := by
  have noOpening : ∀ c ∈ rowText, (c == '(') = false :=
    rowLiteral.beq_eq_false (by decide) (by decide) (by decide)
  have noClosing : ∀ c ∈ colText, (c == ')') = false :=
    colLiteral.beq_eq_false (by decide) (by decide) (by decide)
  -- Seen from the back, everything up to the second literal is one text.
  have regroup : ∀ first last : List Char, first ++ (rowText ++ (middle ++ (colText ++ last))) =
      (first ++ (rowText ++ middle)) ++ (colText ++ last) := by
    intro first last
    simp only [List.append_assoc]
  rw [unwrap_eq, trim_eq,
    dropWhile_append_kept _ _ rowLiteral.nonempty rowLiteral.isWord.solid, regroup,
    rdropWhile_append_kept _ _ colLiteral.nonempty colLiteral.isWord.solid, ← regroup,
    dropWhile_append_kept _ _ rowLiteral.nonempty noOpening, regroup,
    rdropWhile_append_kept _ _ colLiteral.nonempty noClosing, ← regroup]

/-- Two literals with a comma between them, inside of white space, are found by the cut at the
comma. -/
theorem coordinates?_of_unwrap (rowLiteral : Literal rowText row.toInt)
    (colLiteral : Literal colText col.toInt) (blankFront : Blank front) (blankAfter : Blank afterRow)
    (blankBefore : Blank beforeCol) (blankBack : Blank back)
    (unwrapped : unwrap text =
      (front ++ (rowText ++ afterRow)) ++ ',' :: (beforeCol ++ (colText ++ back))) :
    coordinates? text = some (row, col) := by
  have noComma : ∀ c ∈ front ++ (rowText ++ afterRow), (c != ',') = true := by
    intro c member
    rw [bne, Bool.not_eq_true']
    rcases List.mem_append.mp member with inFront | member
    · exact blankFront.beq_eq_false (by decide) c inFront
    · rcases List.mem_append.mp member with inRow | inGap
      · exact rowLiteral.beq_eq_false (by decide) (by decide) (by decide) c inRow
      · exact blankAfter.beq_eq_false (by decide) c inGap
  have rest : (unwrap text).dropWhile (· != ',') = ',' :: (beforeCol ++ (colText ++ back)) := by
    rw [unwrapped, List.dropWhile_append_of_pos noComma, List.dropWhile_cons_of_neg (by decide)]
  have first : (unwrap text).takeWhile (· != ',') = front ++ (rowText ++ afterRow) := by
    rw [unwrapped, List.takeWhile_append_of_pos noComma, List.takeWhile_cons_of_neg (by decide),
      List.append_nil]
  simp only [coordinates?, rest, first, trim_around rowLiteral.isWord blankFront blankAfter,
    trim_around colLiteral.isWord blankBefore blankBack, int32?_eq_some_iff.mpr rowLiteral,
    int32?_eq_some_iff.mpr colLiteral]
  rfl

theorem Spelled.coordinates?_eq (spelled : Spelled text row col) :
    coordinates? text = some (row, col) := by
  cases spelled with
  | @intro _ _ rowText colText rowLiteral colLiteral opened closed before inside afterRow beforeCol
      afterCol after gaps =>
    simp only [List.mem_cons, List.not_mem_nil, or_false, forall_eq_or_imp, forall_eq] at gaps
    obtain ⟨blankBefore, blankInside, blankAfterRow, blankBeforeCol, blankAfterCol, blankAfter⟩ := gaps
    have unwrapped := unwrap_around rowLiteral colLiteral
      (before ++ (List.replicate opened '(' ++ inside)) (afterRow ++ ',' :: beforeCol)
      (afterCol ++ (List.replicate closed ')' ++ after))
    apply coordinates?_of_unwrap rowLiteral colLiteral
      (blank_dropWhile_run (c := '(') (by decide) blankBefore blankInside opened) blankAfterRow
      blankBeforeCol (blank_rdropWhile_run (c := ')') (by decide) blankAfterCol blankAfter closed)
    simp only [List.append_assoc, List.cons_append, List.nil_append] at unwrapped ⊢
    exact unwrapped

/-- What the reader takes off and cuts out are the parts of the language. -/
theorem spelled_of_coordinates? (read : coordinates? text = some (row, col)) :
    Spelled text row col := by
  unfold coordinates? at read
  simp only at read
  split at read
  · cases read
  · rename_i comma afterComma cut
    simp only [Option.bind_eq_bind, Option.bind_eq_some_iff, Option.pure_def, Option.some.injEq,
      Prod.mk.injEq] at read
    obtain ⟨_, rowRead, _, colRead, rfl, rfl⟩ := read
    obtain ⟨before, after, around, blankBefore, blankAfter⟩ := exists_trim text
    obtain ⟨opens, opened, allOpening⟩ := exists_dropWhile (· == '(') (trim text)
    obtain ⟨closes, closed, allClosing⟩ :=
      exists_rdropWhile (· == ')') ((trim text).dropWhile (· == '('))
    obtain ⟨inside, afterRow, rowAround, blankInside, blankAfterRow⟩ :=
      exists_trim ((unwrap text).takeWhile (· != ','))
    obtain ⟨beforeCol, afterCol, colAround, blankBeforeCol, blankAfterCol⟩ := exists_trim afterComma
    obtain rfl : comma = ',' := by
      have stops := List.head?_dropWhile_not (· != ',') (unwrap text)
      rw [cut] at stops
      simpa using stops
    have opening : opens = List.replicate opens.length '(' :=
      List.eq_replicate_of_mem fun c member => eq_of_beq (allOpening c member)
    have closing : closes = List.replicate closes.length ')' :=
      List.eq_replicate_of_mem fun c member => eq_of_beq (allClosing c member)
    have inner : unwrap text = (unwrap text).takeWhile (· != ',') ++ ',' :: afterComma := by
      rw [← cut, List.takeWhile_append_dropWhile]
    have outer : text = before ++ ((opens ++ (unwrap text ++ closes)) ++ after) := by
      rw [unwrap_eq, ← closed, ← opened]
      exact around
    rw [rowAround, colAround] at inner
    rw [inner, opening, closing] at outer
    have gaps : ∀ gap ∈ [before, inside, afterRow, beforeCol, afterCol, after], Blank gap := by
      simp only [List.mem_cons, List.not_mem_nil, or_false, forall_eq_or_imp, forall_eq]
      exact ⟨blankBefore, blankInside, blankAfterRow, blankBeforeCol, blankAfterCol, blankAfter⟩
    have spelled := Spelled.intro (int32?_eq_some_iff.mp rowRead) (int32?_eq_some_iff.mp colRead)
      opens.length closes.length gaps
    simp only [List.append_assoc, List.cons_append, List.nil_append] at outer spelled
    rw [outer]
    exact spelled

/-- The reader finds two numbers in exactly the texts that spell them. -/
theorem coordinates?_eq_some_iff : coordinates? text = some (row, col) ↔ Spelled text row col :=
  ⟨spelled_of_coordinates?, Spelled.coordinates?_eq⟩

theorem coordinates?_eq_none_iff :
    coordinates? text = none ↔ ∀ row col, ¬ Spelled text row col := by
  simp only [← coordinates?_eq_some_iff, Option.eq_none_iff_forall_ne_some, Prod.forall]

theorem locate_eq_ok_iff {row col : Int32} {sq : Square} :
    locate row col = .ok sq ↔ row.toInt = sq.rank ∧ col.toInt = sq.file := by
  rw [← ofCoords?_eq_some_iff, locate]
  cases ofCoords? row.toInt col.toInt with
  | none => simp
  | some found => simp

/-- The numbers of a square, with a comma between them. -/
def digits (sq : Square) : List Char :=
  Nat.toDigits 10 sq.row.val ++ ',' :: Nat.toDigits 10 sq.col.val

theorem toList_text (sq : Square) : sq.text.toList = '(' :: (sq.digits ++ [')']) := by
  simp only [text, digits, String.toList_append, Text.toList_toString_nat, List.append_assoc]
  rfl

theorem cases_of_mem_digits {sq : Square} {c : Char} (member : c ∈ sq.digits) :
    c.isDigit = true ∨ c = ',' := by
  rw [digits, List.mem_append, List.mem_cons] at member
  rcases member with row | comma | col
  · exact .inl (Text.isDigit_of_mem_toDigits row)
  · exact .inr comma
  · exact .inl (Text.isDigit_of_mem_toDigits col)

theorem isWord_text (sq : Square) : Text.IsWord sq.text.toList where
  nonempty := by
    rw [toList_text]
    exact List.cons_ne_nil _ _
  solid := by
    intro c member
    rw [toList_text, List.mem_cons, List.mem_append, List.mem_singleton] at member
    rcases member with rfl | inside | rfl
    · decide
    · rcases cases_of_mem_digits inside with digit | rfl
      · exact Text.isBlank_eq_false_of_isDigit digit
      · decide
    · decide

/-- The written form of a square spells its coordinates, also inside of white space. -/
theorem exists_spelled_text (sq : Square) (blankFront : Blank front) (blankBack : Blank back) :
    ∃ row col, Spelled (front ++ sq.text.toList ++ back) row col ∧
      row.toInt = sq.rank ∧ col.toInt = sq.file := by
  have rowBound := sq.row.isLt
  have colBound := sq.col.isLt
  have rowValue : (Int32.ofNat sq.row.val).toInt = sq.row.val := Int32.toInt_ofNat_of_lt (by omega)
  have colValue : (Int32.ofNat sq.col.val).toInt = sq.col.val := Int32.toInt_ofNat_of_lt (by omega)
  have rowLiteral := literal_toDigits sq.row.val
  have colLiteral := literal_toDigits sq.col.val
  rw [← rowValue] at rowLiteral
  rw [← colValue] at colLiteral
  have gaps : ∀ gap ∈ [front, [], [], [], [], back], Blank gap := by
    simp only [List.mem_cons, List.not_mem_nil, or_false, forall_eq_or_imp, forall_eq]
    exact ⟨blankFront, blank_nil, blank_nil, blank_nil, blank_nil, blankBack⟩
  have spelled := Spelled.intro rowLiteral colLiteral 1 1 gaps
  refine ⟨_, _, ?_, rowValue, colValue⟩
  simp only [toList_text, digits, List.replicate_one, List.append_assoc, List.cons_append,
    List.nil_append] at spelled ⊢
  exact spelled

/-- The two numbers of a text that spells them are looked up on the board. -/
theorem read_of_spelled {text : String} (spelled : Spelled text.toList row col) :
    read text = locate row col := by
  rw [read, spelled.coordinates?_eq]

theorem read_of_unspelled {text : String} (unspelled : ∀ row col, ¬ Spelled text.toList row col) :
    read text = .error (.malformedSquare text) := by
  rw [read, coordinates?_eq_none_iff.mpr unspelled]

/-- A text spells at most one row and column. -/
theorem Spelled.unique {row' col' : Int32} (spelled : Spelled text row col)
    (other : Spelled text row' col') : row' = row ∧ col' = col := by
  have same := other.coordinates?_eq.symm.trans spelled.coordinates?_eq
  rwa [Option.some.injEq, Prod.mk.injEq] at same

theorem exists_spelled_or (text : List Char) :
    (∃ row col, Spelled text row col) ∨ ∀ row col, ¬ Spelled text row col := by
  simp only [← not_exists]
  exact Classical.em _

theorem read_eq_ok_iff {text : String} :
    read text = .ok sq ↔
      ∃ row col, Spelled text.toList row col ∧ row.toInt = sq.rank ∧ col.toInt = sq.file := by
  rcases exists_spelled_or text.toList with ⟨row, col, spelled⟩ | unspelled
  · rw [read_of_spelled spelled, locate_eq_ok_iff]
    refine ⟨fun here => ⟨row, col, spelled, here⟩, ?_⟩
    rintro ⟨otherRow, otherCol, other, here⟩
    obtain ⟨rfl, rfl⟩ := spelled.unique other
    exact here
  · simp [read_of_unspelled unspelled, unspelled]

/-- A written square is read back. -/
theorem read_text (sq : Square) : read sq.text = .ok sq := by
  have spelled := sq.exists_spelled_text blank_nil blank_nil
  rw [List.nil_append, List.append_nil] at spelled
  exact read_eq_ok_iff.mpr spelled

theorem locate_eq_error_iff {row col : Int32} {fault : SetupError} :
    locate row col = .error fault ↔
      ¬ ((0 ≤ row.toInt ∧ row.toInt ≤ 9) ∧ 0 ≤ col.toInt ∧ col.toInt ≤ 8) ∧
        fault = .outOfBounds row col := by
  unfold locate
  cases found : ofCoords? row.toInt col.toInt with
  | none =>
    have beyond := ofCoords?_eq_none_iff.mp found
    rw [Except.error.injEq, eq_comm, iff_and_self]
    omega
  | some sq =>
    obtain ⟨rows, cols⟩ := ofCoords?_eq_some_iff.mp found
    have rowBound := sq.row.isLt
    have colBound := sq.col.isLt
    rw [rank] at rows
    rw [file] at cols
    simp only [reduceCtorEq, false_iff]
    omega

theorem read_eq_outOfBounds_iff {text : String} :
    read text = .error (.outOfBounds row col) ↔ Spelled text.toList row col ∧
      ¬ ((0 ≤ row.toInt ∧ row.toInt ≤ 9) ∧ 0 ≤ col.toInt ∧ col.toInt ≤ 8) := by
  rcases exists_spelled_or text.toList with ⟨foundRow, foundCol, found⟩ | unspelled
  · rw [read_of_spelled found, locate_eq_error_iff, SetupError.outOfBounds.injEq]
    constructor
    · rintro ⟨beyond, rfl, rfl⟩
      exact ⟨found, beyond⟩
    · rintro ⟨spelled, beyond⟩
      obtain ⟨rfl, rfl⟩ := found.unique spelled
      exact ⟨beyond, rfl, rfl⟩
  · simp [read_of_unspelled unspelled, unspelled]

theorem read_eq_malformed_iff {text quoted : String} :
    read text = .error (.malformedSquare quoted) ↔
      quoted = text ∧ ∀ row col, ¬ Spelled text.toList row col := by
  rcases exists_spelled_or text.toList with ⟨row, col, spelled⟩ | unspelled
  · rw [read_of_spelled spelled, locate_eq_error_iff]
    have refuted : ¬ ∀ row col, ¬ Spelled text.toList row col := fun none => none row col spelled
    simp [refuted]
  · rw [read_of_unspelled unspelled, Except.error.injEq, SetupError.malformedSquare.injEq, eq_comm]
    exact (and_iff_left unspelled).symm

/-- A text is read as a square exactly if it spells the coordinates of that square; if it spells
coordinates beyond the board these are reported, and a text that spells no coordinates is given back
as malformed. In particular the written form of a square inside of white space is read as that
square. -/
theorem squares_read_exactly (text : String) :
    (∀ sq, read text = .ok sq ↔
      ∃ row col, Spelled text.toList row col ∧ row.toInt = sq.rank ∧ col.toInt = sq.file) ∧
    (∀ row col, read text = .error (.outOfBounds row col) ↔ Spelled text.toList row col ∧
      ¬ ((0 ≤ row.toInt ∧ row.toInt ≤ 9) ∧ 0 ≤ col.toInt ∧ col.toInt ≤ 8)) ∧
    (∀ quoted, read text = .error (.malformedSquare quoted) ↔
      quoted = text ∧ ∀ row col, ¬ Spelled text.toList row col) ∧
    (∀ sq front back, Blank front → Blank back → text.toList = front ++ sq.text.toList ++ back →
      read text = .ok sq) := by
  refine ⟨fun sq => read_eq_ok_iff, fun row col => read_eq_outOfBounds_iff,
    fun quoted => read_eq_malformed_iff, ?_⟩
  intro sq front back blankFront blankBack shape
  rw [read_eq_ok_iff, shape]
  exact sq.exists_spelled_text blankFront blankBack

/-- Signs, leading zeros and unpaired parentheses are read; a square beyond the board and a number
beyond 32 bits are told apart; a written square may stand between blanks. -/
theorem squares_read_exactly_unpaired :
    read "\u00a0((+009 ,\t-0 )\n" = .ok ⟨9, 0⟩ ∧
      read " (10,-1))" = .error (.outOfBounds 10 (-1)) ∧
      read "2147483648,0" = .error (.malformedSquare "2147483648,0") ∧
      read " (3,4)\n" = .ok ⟨3, 4⟩ := by
  obtain ⟨found, -⟩ := squares_read_exactly "\u00a0((+009 ,\t-0 )\n"
  obtain ⟨-, beyond, -⟩ := squares_read_exactly " (10,-1))"
  obtain ⟨-, -, malformed, -⟩ := squares_read_exactly "2147483648,0"
  obtain ⟨-, -, -, written⟩ := squares_read_exactly " (3,4)\n"
  have signed : Spelled "\u00a0((+009 ,\t-0 )\n".toList 9 0 :=
    coordinates?_eq_some_iff.mp (by decide +kernel)
  have outside : Spelled " (10,-1))".toList 10 (-1) :=
    coordinates?_eq_some_iff.mp (by decide +kernel)
  have tooLarge : ∀ row col, ¬ Spelled "2147483648,0".toList row col :=
    coordinates?_eq_none_iff.mp (by decide +kernel)
  have space : Blank [' '] := by decide
  have newline : Blank ['\n'] := by decide
  exact ⟨(found _).mpr ⟨9, 0, signed, by decide, by decide⟩,
    (beyond 10 (-1)).mpr ⟨outside, by decide⟩,
    (malformed _).mpr ⟨rfl, tooLarge⟩,
    written ⟨3, 4⟩ _ _ space newline (by decide +kernel)⟩

end Square

end Xiangqi
