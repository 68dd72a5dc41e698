import Xiangqi.Proofs.Json.Number

/-!
# Values laid out on lines

`Json.layout` writes a value with one element or member on a line, two spaces of indentation a level
and a space after each colon; an empty array or object has nothing between its brackets. Texts are
written as they are, so the values are restricted to those whose texts need no escapes (`isPlain`).
What is laid out writes the value (`writes_of_layout`), and so it is read back.
-/

namespace Xiangqi.Json

/-- The character may stand in a string as it is. -/
def isPlainChar (c : Char) : Bool :=
  c != '"' && c != '\\' && 0x20 ≤ c.toNat

/-- The token has a lexeme without escapes: numbers are well-formed, and texts are plain. -/
def Token.isPlain : Token → Bool
  | .number literal => isNumber literal
  | .text (some value) => value.toList.all isPlainChar
  | .text none => false
  | _ => true

/-- Every text in the value needs no escapes, and every number has a well-formed literal. -/
def isPlain (json : Json) : Bool :=
  json.tokens.all Token.isPlain

/-- The end of a line and the indentation of the next. -/
def newline (depth : Nat) : List Char :=
  '\n' :: List.replicate (2 * depth) ' '

/-- A text between quotation marks. -/
def quote (value : Option String) : List Char :=
  '"' :: ((value.getD "").toList ++ ['"'])

mutual

/-- The layout of a value that stands at the given depth. -/
def layout (depth : Nat) : Json → List Char
  | null => ['n', 'u', 'l', 'l']
  | bool true => ['t', 'r', 'u', 'e']
  | bool false => ['f', 'a', 'l', 's', 'e']
  | number literal => literal
  | text value => quote value
  | array [] => ['[', ']']
  | array (first :: rest) =>
    '[' :: (newline (depth + 1) ++ (first.layout (depth + 1) ++ layoutElements depth rest))
  | object [] => ['\x7b', '\x7d']
  | object ((key, value) :: rest) =>
    '\x7b' :: (newline (depth + 1) ++ (quote key ++ ':' :: ' ' ::
      (value.layout (depth + 1) ++ layoutMembers depth rest)))

/-- What follows an element of an array that stands at the given depth. -/
def layoutElements (depth : Nat) : List Json → List Char
  | [] => newline depth ++ [']']
  | first :: rest =>
    ',' :: (newline (depth + 1) ++ (first.layout (depth + 1) ++ layoutElements depth rest))

/-- What follows a member of an object that stands at the given depth. -/
def layoutMembers (depth : Nat) : List (Option String × Json) → List Char
  | [] => newline depth ++ ['\x7d']
  | (key, value) :: rest =>
    ',' :: (newline (depth + 1) ++ (quote key ++ ':' :: ' ' ::
      (value.layout (depth + 1) ++ layoutMembers depth rest)))

end

variable {text : List Char} {tokens : List Token} {value : Option String}

theorem gap_newline (depth : Nat) : Gap (newline depth) := by
  intro c member
  rcases List.mem_cons.mp member with rfl | space
  · rfl
  · rw [List.eq_of_mem_replicate space]
    rfl

theorem gap_space : Gap [' '] := by
  rintro c member
  rw [List.mem_singleton.mp member]
  rfl

/-- Characters that stand for themselves, and the text that they make up. -/
theorem content_of_plain {chars : List Char} (plain : chars.all isPlainChar = true) :
    Content chars (chars.map .char) ∧ assemble (chars.map .char) = some chars := by
  induction chars with
  | nil => exact ⟨.nil, rfl⟩
  | cons c rest ih =>
    rw [List.all_cons, Bool.and_eq_true, isPlainChar, Bool.and_eq_true, Bool.and_eq_true, bne_iff_ne,
      bne_iff_ne, decide_eq_true_eq] at plain
    obtain ⟨⟨⟨notQuote, notBackslash⟩, printable⟩, others⟩ := plain
    obtain ⟨content, assembled⟩ := ih others
    rw [List.map_cons]
    refine ⟨.plain notQuote notBackslash printable content, ?_⟩
    rw [assemble, assembled, Option.map_some]

theorem lexeme_quote (plain : (Token.text value).isPlain = true) :
    Lexeme (.text value) (quote value) := by
  cases value with
  | none => cases plain
  | some value =>
    obtain ⟨content, assembled⟩ := content_of_plain plain
    have lexeme := Lexeme.string content
    rwa [assembled, Option.map_some, String.ofList_toList] at lexeme

/-- A key and its colon before a value that is already written. -/
theorem spaced_key (plain : (Token.text value).isPlain = true) (spaced : Spaced tokens text) :
    Spaced (.text value :: .colon :: tokens) (quote value ++ ':' :: ' ' :: text) := by
  exact (lexeme_quote plain).spaced.append (.mark rfl (.gap gap_space spaced))

mutual

/-- The layout of a value is written by its tokens. -/
theorem spaced_layout (depth : Nat) (json : Json) (plain : json.tokens.all Token.isPlain = true) :
    Spaced json.tokens (json.layout depth) := by
  cases json with
  | null =>
    rw [tokens, layout]
    exact (Lexeme.name (by decide) (by decide) rfl).spaced
  | bool truth =>
    cases truth <;> rw [tokens, layout] <;>
      exact (Lexeme.name (by decide) (by decide) rfl).spaced
  | number literal =>
    rw [tokens, List.all_cons, Bool.and_eq_true] at plain
    rw [tokens, layout]
    exact (Lexeme.number plain.1).spaced
  | text value =>
    rw [tokens, List.all_cons, Bool.and_eq_true] at plain
    rw [tokens, layout]
    exact (lexeme_quote plain.1).spaced
  | array elements =>
    cases elements with
    | nil =>
      rw [tokens, layout]
      exact .mark rfl (Lexeme.mark rfl).spaced
    | cons first rest =>
      rw [tokens, List.all_cons, List.all_append, Bool.and_eq_true, Bool.and_eq_true] at plain
      obtain ⟨-, firstPlain, restPlain⟩ := plain
      rw [tokens, layout]
      exact .mark rfl (.gap (gap_newline _) ((spaced_layout (depth + 1) first firstPlain).append
        (spaced_layoutElements depth rest restPlain)))
  | object members =>
    cases members with
    | nil =>
      rw [tokens, layout]
      exact .mark rfl (Lexeme.mark rfl).spaced
    | cons member rest =>
      obtain ⟨key, value⟩ := member
      rw [tokens, List.all_cons, List.all_cons, List.all_cons, List.all_append, Bool.and_eq_true,
        Bool.and_eq_true, Bool.and_eq_true, Bool.and_eq_true] at plain
      obtain ⟨-, keyPlain, -, valuePlain, restPlain⟩ := plain
      rw [tokens, layout]
      exact .mark rfl (.gap (gap_newline _) (spaced_key keyPlain
        ((spaced_layout (depth + 1) value valuePlain).append
          (spaced_layoutMembers depth rest restPlain))))

theorem spaced_layoutElements (depth : Nat) (rest : List Json)
    (plain : (furtherElements rest).all Token.isPlain = true) :
    Spaced (furtherElements rest) (layoutElements depth rest) := by
  cases rest with
  | nil =>
    rw [furtherElements, layoutElements]
    exact .gap (gap_newline depth) (Lexeme.mark rfl).spaced
  | cons first others =>
    rw [furtherElements, List.all_cons, List.all_append, Bool.and_eq_true, Bool.and_eq_true] at plain
    obtain ⟨-, firstPlain, restPlain⟩ := plain
    rw [furtherElements, layoutElements]
    exact .mark rfl (.gap (gap_newline _) ((spaced_layout (depth + 1) first firstPlain).append
      (spaced_layoutElements depth others restPlain)))

theorem spaced_layoutMembers (depth : Nat) (rest : List (Option String × Json))
    (plain : (furtherMembers rest).all Token.isPlain = true) :
    Spaced (furtherMembers rest) (layoutMembers depth rest) := by
  cases rest with
  | nil =>
    rw [furtherMembers, layoutMembers]
    exact .gap (gap_newline depth) (Lexeme.mark rfl).spaced
  | cons member others =>
    obtain ⟨key, value⟩ := member
    rw [furtherMembers, List.all_cons, List.all_cons, List.all_cons, List.all_append,
      Bool.and_eq_true, Bool.and_eq_true, Bool.and_eq_true, Bool.and_eq_true] at plain
    obtain ⟨-, keyPlain, -, valuePlain, restPlain⟩ := plain
    rw [furtherMembers, layoutMembers]
    exact .mark rfl (.gap (gap_newline _) (spaced_key keyPlain
      ((spaced_layout (depth + 1) value valuePlain).append
        (spaced_layoutMembers depth others restPlain))))

end

/-- A text in the layout of a value writes it, so it is read back as that value. -/
theorem writes_of_layout {text : String} {json : Json} (plain : json.isPlain = true)
    (laidOut : text.toList = json.layout 0) : Writes text json := by
  rw [Writes, laidOut]
  exact spaced_layout 0 json plain

end Xiangqi.Json
