/-!
# White space, words and lines

White space is the Unicode property `White_Space`: twenty-five characters in ten ranges. Words are
maximal runs of other characters. Lines end at a line feed; a carriage return directly before the
line feed belongs to the line end, and text after the last line feed is a line of its own.
-/

namespace Xiangqi.Text

/-- The ranges of code points, ends included, that have the Unicode property `White_Space`. -/
def blankRanges : List (Nat × Nat) :=
  [(0x09, 0x0D), (0x20, 0x20), (0x85, 0x85), (0xA0, 0xA0), (0x1680, 0x1680), (0x2000, 0x200A),
    (0x2028, 0x2029), (0x202F, 0x202F), (0x205F, 0x205F), (0x3000, 0x3000)]

/-- The character is Unicode white space. -/
def isBlank (c : Char) : Bool :=
  blankRanges.any fun range => range.1 ≤ c.toNat && c.toNat ≤ range.2

/-- The text without white space at its end. -/
def trimEnd (text : List Char) : List Char :=
  (text.reverse.dropWhile isBlank).reverse

/-- The text without white space at either end. -/
def trim (text : List Char) : List Char :=
  trimEnd (text.dropWhile isBlank)

/-- The pieces between separators, at least one; separators themselves are dropped. -/
def split (isSeparator : Char → Bool) : List Char → List (List Char)
  | [] => [[]]
  | c :: rest =>
    if isSeparator c then
      [] :: split isSeparator rest
    else
      match split isSeparator rest with
      | [] => [[c]]
      | piece :: pieces => (c :: piece) :: pieces

/-- The maximal runs of characters that are not white space. -/
def words (text : List Char) : List (List Char) :=
  (split isBlank text).filter fun piece => !piece.isEmpty

/-- Drop one carriage return at the end. -/
def dropReturn (line : List Char) : List Char :=
  if line.getLast? = some '\r' then line.dropLast else line

/-- The lines of a text, without their line ends. -/
def lines (text : List Char) : List (List Char) :=
  let pieces := split (· == '\n') text
  let unfinished := pieces.getLast?.getD []
  pieces.dropLast.map dropReturn ++ (if unfinished.isEmpty then [] else [unfinished])

theorem split_ne_nil (isSeparator : Char → Bool) (text : List Char) :
    split isSeparator text ≠ [] := by
  cases text with
  | nil => simp [split]
  | cons c rest =>
    simp only [split]
    split
    · simp
    · split <;> simp

/-- No separator is left inside a piece. -/
theorem not_separator_of_mem_split {isSeparator : Char → Bool} {text piece : List Char} {c : Char}
    (inPieces : piece ∈ split isSeparator text) (inPiece : c ∈ piece) : isSeparator c = false := by
  induction text generalizing piece with
  | nil =>
    simp only [split, List.mem_singleton] at inPieces
    subst inPieces
    cases inPiece
  | cons d rest ih =>
    simp only [split] at inPieces
    split at inPieces
    · rcases List.mem_cons.1 inPieces with rfl | later
      · cases inPiece
      · exact ih later inPiece
    · rename_i notSeparator
      split at inPieces
      · rename_i empty
        exact absurd empty (split_ne_nil _ _)
      · rename_i first others shape
        rcases List.mem_cons.1 inPieces with rfl | later
        · rcases List.mem_cons.1 inPiece with rfl | inside
          · simpa using notSeparator
          · exact ih (by rw [shape]; exact List.mem_cons_self) inside
        · exact ih (by rw [shape]; exact List.mem_cons_of_mem _ later) inPiece

/-- Words hold no white space. -/
theorem isBlank_eq_false_of_mem_words {text word : List Char} {c : Char}
    (inWords : word ∈ words text) (inWord : c ∈ word) : isBlank c = false :=
  not_separator_of_mem_split (List.mem_filter.1 inWords).1 inWord

end Xiangqi.Text
