import Mathlib.Data.List.Basic
import Xiangqi.Text.Blank

/-!
# Words and lines of texts that are put together

A separator cuts a text into two parts, and the pieces of the whole are those of the parts
(`split_append_separator`). From this one equation follow the ways back: words with white space
between them are found again, and so are lines that were written out. What a text says line by line
is `spoken`: the words of each line that has any. It depends neither on the form of the line ends nor
on white space at the end of the text.
-/

namespace Xiangqi.Text

/-- The text is a single word: there is something in it, and no white space. -/
structure IsWord (text : List Char) : Prop where
  nonempty : text ≠ []
  solid : ∀ c ∈ text, isBlank c = false

theorem isWord_iff {text : List Char} :
    IsWord text ↔ text.isEmpty = false ∧ text.all (!isBlank ·) = true := by
  simp only [List.isEmpty_eq_false_iff, List.all_eq_true, Bool.not_eq_true']
  exact ⟨fun isWord => ⟨isWord.nonempty, isWord.solid⟩, fun parts => ⟨parts.1, parts.2⟩⟩

instance (text : List Char) : Decidable (IsWord text) :=
  decidable_of_iff _ isWord_iff.symm

/-- The words of each line; lines without words are left out. -/
def spoken (text : List Char) : List (List (List Char)) :=
  ((lines text).map words).filter (!·.isEmpty)

/-- The text with a carriage return in front of every line feed. -/
def withReturns (text : List Char) : List Char :=
  text.flatMap fun c => if c = '\n' then ['\r', '\n'] else [c]

variable {isSeparator : Char → Bool} {text word line : List Char} {c : Char}

/-- The pieces around a separator are those before it and those behind it. -/
theorem split_append_separator (separates : isSeparator c = true) (before after : List Char) :
    split isSeparator (before ++ c :: after) =
      split isSeparator before ++ split isSeparator after := by
  induction before with
  | nil =>
    simp only [List.nil_append, split, separates, if_true]
    rfl
  | cons d rest ih =>
    obtain ⟨first, others, shape⟩ := List.exists_cons_of_ne_nil (split_ne_nil isSeparator rest)
    simp only [List.cons_append, split, ih, shape]
    split
    · rfl
    · rfl

/-- A text without separators is one piece. -/
theorem split_eq_singleton (free : ∀ c ∈ text, isSeparator c = false) :
    split isSeparator text = [text] := by
  induction text with
  | nil => rfl
  | cons c rest ih =>
    have here := free c List.mem_cons_self
    have others := ih fun d member => free d (List.mem_cons_of_mem c member)
    rw [split, others, here]
    rfl

/-- White space separates words. -/
theorem words_append_blank (blank : isBlank c = true) (before after : List Char) :
    words (before ++ c :: after) = words before ++ words after := by
  rw [words, split_append_separator blank, List.filter_append]
  rfl

theorem words_concat_blank (blank : isBlank c = true) (text : List Char) :
    words (text ++ [c]) = words text := by
  rw [words_append_blank blank]
  exact List.append_nil _

/-- Words with another character than a blank between them are one word. -/
theorem IsWord.glue {second : List Char} (isWord : IsWord word) (solid : isBlank c = false)
    (other : IsWord second) : IsWord (word ++ c :: second) where
  nonempty := List.append_ne_nil_of_left_ne_nil isWord.nonempty _
  solid := by
    intro d member
    rw [List.mem_append, List.mem_cons] at member
    rcases member with before | rfl | after
    · exact isWord.solid d before
    · exact solid
    · exact other.solid d after

theorem IsWord.words_eq (isWord : IsWord word) : words word = [word] := by
  have some_letter : word.isEmpty = false := List.isEmpty_eq_false_iff.mpr isWord.nonempty
  rw [words, split_eq_singleton isWord.solid, List.filter_cons, some_letter]
  rfl

/-- A word is found in front of white space. -/
theorem IsWord.words_append (isWord : IsWord word) (blank : isBlank c = true) (rest : List Char) :
    words (word ++ c :: rest) = word :: words rest := by
  rw [words_append_blank blank, isWord.words_eq]
  rfl

theorem split_append_lineFeed (before after : List Char) :
    split (· == '\n') (before ++ '\n' :: after) =
      split (· == '\n') before ++ split (· == '\n') after := by
  apply split_append_separator
  rfl

theorem split_unbroken (unbroken : '\n' ∉ line) : split (· == '\n') line = [line] := by
  apply split_eq_singleton
  intro c member
  rw [beq_eq_false_iff_ne]
  rintro rfl
  exact unbroken member

/-- Lines that were written out with a line feed each are the pieces of the text, and nothing follows
the last one. -/
theorem split_flatMap_lines {written : List (List Char)} (unbroken : ∀ line ∈ written, '\n' ∉ line) :
    split (· == '\n') (written.flatMap (· ++ ['\n'])) = written ++ [[]] := by
  induction written with
  | nil => rfl
  | cons line rest ih =>
    have here := split_unbroken (unbroken line List.mem_cons_self)
    have others := ih fun other member => unbroken other (List.mem_cons_of_mem line member)
    rw [List.flatMap_cons, List.append_assoc, List.singleton_append, split_append_lineFeed, here,
      others]
    rfl

/-- Lines with a line feed between any two of them are the pieces of the text. -/
theorem split_intercalate_lines {written : List (List Char)} (nonempty : written ≠ [])
    (unbroken : ∀ line ∈ written, '\n' ∉ line) :
    split (· == '\n') (['\n'].intercalate written) = written := by
  induction written with
  | nil => exact absurd rfl nonempty
  | cons line rest ih =>
    have here := split_unbroken (unbroken line List.mem_cons_self)
    cases rest with
    | nil => rw [List.intercalate_singleton, here]
    | cons next others =>
      have further := ih (List.cons_ne_nil next others)
        fun other member => unbroken other (List.mem_cons_of_mem line member)
      rw [List.intercalate_cons_cons, List.append_assoc, List.singleton_append,
        split_append_lineFeed, here, further]
      rfl

/-- Lines that were written out are read again, unless one of them ends with a carriage return, which
would be taken for a part of the line end. -/
theorem lines_flatMap_lines {written : List (List Char)} (unbroken : ∀ line ∈ written, '\n' ∉ line)
    (bare : ∀ line ∈ written, line.getLast? ≠ some '\r') :
    lines (written.flatMap (· ++ ['\n'])) = written := by
  have kept : written.map dropReturn = written := by
    conv_rhs => rw [← List.map_id written]
    apply List.map_congr_left
    intro line member
    exact if_neg (bare line member)
  simp only [lines, split_flatMap_lines unbroken, List.dropLast_concat, List.getLast?_concat,
    Option.getD_some, List.isEmpty_nil, if_true, List.append_nil, kept]

/-- A text is a single line without its end, or it begins with a line and its end. -/
theorem linesInduction {motive : List Char → Prop}
    (unended : ∀ line, '\n' ∉ line → motive line)
    (ended : ∀ line rest, '\n' ∉ line → motive rest → motive (line ++ '\n' :: rest))
    (text : List Char) : motive text := by
  by_cases broken : '\n' ∈ text
  · obtain ⟨line, rest, shape, unbroken⟩ := List.eq_append_cons_of_mem broken
    have shorter : rest.length < text.length := by
      rw [shape, List.length_append, List.length_cons]
      omega
    rw [shape]
    exact ended line rest unbroken (linesInduction unended ended rest)
  · exact unended text broken
termination_by text.length

theorem words_dropReturn (line : List Char) : words (dropReturn line) = words line := by
  unfold dropReturn
  split
  · rename_i ends
    have shape := List.dropLast_append_getLast? '\r' ends
    rw [← words_concat_blank (by decide : isBlank '\r' = true), shape]
  · rfl

/-- What a text says can be seen from its pieces between line feeds. -/
theorem spoken_eq (text : List Char) :
    spoken text = ((split (· == '\n') text).map words).filter (!·.isEmpty) := by
  obtain ⟨finished, last, shape⟩ : ∃ finished last, split (· == '\n') text = finished ++ [last] :=
    ⟨_, _, (List.dropLast_append_getLast (split_ne_nil _ text)).symm⟩
  have ends : words ∘ dropReturn = words := funext words_dropReturn
  rw [spoken, lines, shape]
  simp only [List.dropLast_concat, List.getLast?_concat, Option.getD_some, List.map_append,
    List.map_map, List.filter_append, ends]
  -- An empty last piece is no line, but it has no words either.
  cases last with
  | nil => rfl
  | cons c rest => rfl

theorem spoken_of_unbroken (unbroken : '\n' ∉ line) :
    spoken line = [words line].filter (!·.isEmpty) := by
  rw [spoken_eq, split_unbroken unbroken, List.map_singleton]

theorem spoken_append_lineFeed (before after : List Char) :
    spoken (before ++ '\n' :: after) = spoken before ++ spoken after := by
  rw [spoken_eq, split_append_lineFeed, List.map_append, List.filter_append, ← spoken_eq,
    ← spoken_eq]

/-- White space at the end of a text says nothing, be it a line feed or not. -/
theorem spoken_concat_blank (blank : isBlank c = true) (text : List Char) :
    spoken (text ++ [c]) = spoken text := by
  by_cases feed : c = '\n'
  · rw [feed, spoken_append_lineFeed]
    exact List.append_nil _
  · induction text using linesInduction with
    | unended line unbroken =>
      have still : '\n' ∉ line ++ [c] := by
        rw [List.mem_append, List.mem_singleton, not_or]
        exact ⟨unbroken, fun same => feed same.symm⟩
      rw [spoken_of_unbroken still, spoken_of_unbroken unbroken, words_concat_blank blank]
    | ended line rest unbroken ih =>
      rw [List.append_assoc, List.cons_append, spoken_append_lineFeed, spoken_append_lineFeed, ih]

theorem withReturns_of_unbroken (unbroken : '\n' ∉ line) : withReturns line = line := by
  induction line with
  | nil => rfl
  | cons c rest ih =>
    rw [List.mem_cons, not_or] at unbroken
    rw [withReturns, List.flatMap_cons, if_neg (Ne.symm unbroken.1)]
    exact congrArg _ (ih unbroken.2)

/-- The form of the line ends says nothing. -/
theorem spoken_withReturns (text : List Char) : spoken (withReturns text) = spoken text := by
  induction text using linesInduction with
  | unended line unbroken => rw [withReturns_of_unbroken unbroken]
  | ended line rest unbroken ih =>
    have shape : withReturns (line ++ '\n' :: rest) =
        (line ++ ['\r']) ++ '\n' :: withReturns rest := by
      conv_rhs => rw [← withReturns_of_unbroken unbroken]
      rw [withReturns, List.flatMap_append, List.flatMap_cons, List.append_assoc]
      rfl
    rw [shape, spoken_append_lineFeed, spoken_append_lineFeed, ih,
      spoken_concat_blank (by decide : isBlank '\r' = true)]

end Xiangqi.Text
