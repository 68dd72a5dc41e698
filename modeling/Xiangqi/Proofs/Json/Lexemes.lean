import Mathlib.Data.List.Chain
import Xiangqi.Json.Token

/-!
# Texts as spaced lexemes

`Spaced` relates a run of tokens to the texts that write it: every token has its lexemes (`Lexeme`),
and any white space may stand before each of them and at the end. The lexer cuts such a text into
exactly these tokens (`tokens?_of_spaced`). Only a word, that is a name or a number, needs to know
what follows it, because nothing but the next character ends it; so no two words may be neighbours
(`Apart`).

A run of characters that is neither a name nor a well-formed number, such as `05` or `+6`, counts as
a number with this literal. No text with such a run is cut into tokens at all.
-/

namespace Xiangqi.Json

/-- White space between tokens, possibly none. -/
def Gap (text : List Char) : Prop :=
  ∀ c ∈ text, isSpace c = true

/-- What may stand between two quotation marks, and what it stands for. -/
inductive Content : List Char → List Unit16 → Prop
  | nil : Content [] []
  | plain {c : Char} {body : List Char} {units : List Unit16} (notQuote : c ≠ '"')
    (notBackslash : c ≠ '\\') (printable : 0x20 ≤ c.toNat) (rest : Content body units) :
    Content (c :: body) (.char c :: units)
  | escape {letter value : Char} {body : List Char} {units : List Unit16}
    (known : escaped? letter = some value) (rest : Content body units) :
    Content ('\\' :: letter :: body) (.char value :: units)
  | code {first second third fourth : Char} {a b c d : Nat} {body : List Char} {units : List Unit16}
    (firstDigit : Text.hexDigit? first = some a) (secondDigit : Text.hexDigit? second = some b)
    (thirdDigit : Text.hexDigit? third = some c) (fourthDigit : Text.hexDigit? fourth = some d)
    (rest : Content body units) :
    Content ('\\' :: 'u' :: first :: second :: third :: fourth :: body)
      (.code (16 * (16 * (16 * a + b) + c) + d) :: units)

/-- The text writes the token. -/
inductive Lexeme : Token → List Char → Prop
  | mark {token : Token} {c : Char} (known : punctuation? c = some token) : Lexeme token [c]
  | string {body : List Char} {units : List Unit16} (content : Content body units) :
    Lexeme (.text ((assemble units).map String.ofList)) ('"' :: (body ++ ['"']))
  | word {token : Token} {run : List Char} (nonempty : run ≠ [])
    (inside : ∀ c ∈ run, Lexer.endsWord c = false) (known : word? run = some token) :
    Lexeme token run
  | misspelled {run : List Char} (nonempty : run ≠ [])
    (inside : ∀ c ∈ run, Lexer.endsWord c = false) (unknown : word? run = none) :
    Lexeme (.number run) run

/-- The text writes the tokens one after the other, with any white space around them. -/
inductive Spaced : List Token → List Char → Prop
  | nil {gap : List Char} (blank : Gap gap) : Spaced [] gap
  | cons {gap lexeme text : List Char} {token : Token} {tokens : List Token} (blank : Gap gap)
    (head : Lexeme token lexeme) (tail : Spaced tokens text) :
    Spaced (token :: tokens) (gap ++ (lexeme ++ text))

/-- The token is a name or a number. -/
def Token.isWord : Token → Bool
  | .null | .bool _ | .number _ => true
  | _ => false

/-- The token is not a number with a malformed literal. -/
def Token.isSound : Token → Bool
  | .number literal => isNumber literal
  | _ => true

/-- No two words are neighbours. -/
def Apart (tokens : List Token) : Prop :=
  tokens.IsChain fun first second => first.isWord = false ∨ second.isWord = false

variable {first second text rest body run blanks : List Char} {c : Char} {token : Token}
  {left right tokens sofar : List Token} {units : List Unit16} {lexer next : Lexer}

theorem Gap.nil : Gap [] :=
  fun _ member => absurd member List.not_mem_nil

theorem Gap.append (blank : Gap first) (next : Gap second) : Gap (first ++ second) := by
  intro c member
  rcases List.mem_append.mp member with before | after
  · exact blank c before
  · exact next c after

theorem Spaced.append (spaced : Spaced left first) (next : Spaced right second) :
    Spaced (left ++ right) (first ++ second) := by
  induction spaced with
  | nil blank =>
    cases next with
    | nil after => exact .nil (blank.append after)
    | cons after head tail =>
      rw [List.nil_append, ← List.append_assoc]
      exact .cons (blank.append after) head tail
  | cons blank head _ ih =>
    rw [List.cons_append, List.append_assoc, List.append_assoc]
    exact .cons blank head ih

/-- A name or number whose characters have been looked through. -/
theorem Lexeme.name (nonempty : run ≠ []) (inside : run.any Lexer.endsWord = false)
    (known : word? run = some token) : Lexeme token run :=
  .word nonempty (fun c member => Bool.eq_false_iff.mpr (List.any_eq_false.mp inside c member)) known

theorem Lexeme.spaced (lexeme : Lexeme token text) : Spaced [token] text := by
  have alone := Spaced.cons Gap.nil lexeme (.nil Gap.nil)
  rwa [List.nil_append, List.append_nil] at alone

/-- A punctuation mark before a text that is already written. -/
theorem Spaced.mark (known : punctuation? c = some token) (spaced : Spaced tokens text) :
    Spaced (token :: tokens) (c :: text) :=
  (Lexeme.mark known).spaced.append spaced

/-- White space before a text that is already written. -/
theorem Spaced.gap (blank : Gap blanks) (spaced : Spaced tokens text) :
    Spaced tokens (blanks ++ text) :=
  (Spaced.nil blank).append spaced

/-! ## Where a word ends -/

theorem endsWord_of_isSpace (space : isSpace c = true) : Lexer.endsWord c = true := by
  rw [Lexer.endsWord, space, Bool.true_or, Bool.true_or]

theorem endsWord_of_punctuation? (known : punctuation? c = some token) :
    Lexer.endsWord c = true := by
  rw [Lexer.endsWord, known, Option.isSome_some, Bool.or_true]

theorem isWord_and_isSound_of_word? (known : word? text = some token) :
    token.isWord = true ∧ token.isSound = true := by
  unfold word? at known
  split at known
  · cases known
    exact ⟨rfl, rfl⟩
  · split at known
    · cases known
      exact ⟨rfl, rfl⟩
    · split at known
      · cases known
        exact ⟨rfl, rfl⟩
      · split at known
        · cases known
          exact ⟨rfl, ‹_›⟩
        · cases known

theorem word?_of_isNumber (number : isNumber text = true) : word? text = some (.number text) := by
  have notNull : text ≠ ['n', 'u', 'l', 'l'] := by
    rintro rfl
    exact absurd number (by decide)
  have notTrue : text ≠ ['t', 'r', 'u', 'e'] := by
    rintro rfl
    exact absurd number (by decide)
  have notFalse : text ≠ ['f', 'a', 'l', 's', 'e'] := by
    rintro rfl
    exact absurd number (by decide)
  rw [word?, if_neg notNull, if_neg notTrue, if_neg notFalse, if_pos number]

theorem isNumber_of_word?_eq_none (unknown : word? text = none) : ¬ isNumber text = true := by
  intro number
  rw [word?_of_isNumber number] at unknown
  cases unknown

theorem noWord_and_isSound_of_punctuation? (known : punctuation? c = some token) :
    token.isWord = false ∧ token.isSound = true := by
  unfold punctuation? at known
  split at known <;> cases known <;> exact ⟨rfl, rfl⟩

/-- What is written after a word ends the word, unless it begins with a word itself. -/
theorem Spaced.endsWord_head (spaced : Spaced tokens text)
    (apart : ∀ token ∈ tokens.head?, token.isWord = false) :
    ∀ c ∈ text.head?, Lexer.endsWord c = true := by
  have spaceEnds : ∀ gap : List Char, Gap gap → ∀ c ∈ gap.head?, Lexer.endsWord c = true :=
    fun gap blank c head => endsWord_of_isSpace (blank c (List.mem_of_mem_head? head))
  cases spaced with
  | nil blank => exact spaceEnds text blank
  | @cons gap lexeme text token tokens blank head tail =>
    cases gap with
    | cons space others => exact spaceEnds (space :: others) blank
    | nil =>
      have noWord : token.isWord = false := apart token rfl
      cases head with
      | mark known =>
        rintro c ⟨rfl⟩
        exact endsWord_of_punctuation? known
      | string content =>
        rintro c ⟨rfl⟩
        rfl
      | word nonempty inside known =>
        rw [(isWord_and_isSound_of_word? known).1] at noWord
        cases noWord
      | misspelled nonempty inside unknown => cases noWord

/-! ## How the lexer reads lexemes -/

namespace Lexer

/-- The tokens of a whole text, when the lexer has already read its beginning. -/
def complete (lexer : Lexer) (rest : List Char) : Option (List Token) :=
  (lexer.feedAll rest).bind finish

theorem complete_append (reads : lexer.feedAll first = some next) :
    lexer.complete (first ++ rest) = next.complete rest := by
  rw [complete, feedAll_append, reads, Option.bind_some, complete]

theorem complete_cons (reads : lexer.feed c = some next) :
    lexer.complete (c :: rest) = next.complete rest := by
  rw [complete, feedAll, reads, Option.bind_some, complete]

theorem complete_gap (blank : Gap blanks) :
    (Lexer.mk sofar .between).complete (blanks ++ rest) =
      (Lexer.mk sofar .between).complete rest := by
  induction blanks with
  | nil => rfl
  | cons space others ih =>
    have reads : (Lexer.mk sofar .between).feed space = some ⟨sofar, .between⟩ := by
      simp only [feed, begin, blank space List.mem_cons_self, if_true]
    rw [List.cons_append, complete_cons reads]
    exact ih fun c member => blank c (List.mem_cons_of_mem space member)

theorem complete_mark (known : punctuation? c = some token) :
    (Lexer.mk sofar .between).complete (c :: rest) =
      (Lexer.mk (token :: sofar) .between).complete rest := by
  have notSpace : ¬ isSpace c = true := by
    unfold punctuation? at known
    split at known <;> first | decide | cases known
  have notQuote : c ≠ '"' := by
    rintro rfl
    cases known
  have reads : (Lexer.mk sofar .between).feed c = some ⟨token :: sofar, .between⟩ := by
    simp only [feed, begin, if_neg notSpace, if_neg notQuote, known]
  exact complete_cons reads

/-- Inside of a string, the contents are collected, newest first. -/
theorem feedAll_content (content : Content body units) (before : List Unit16) :
    (Lexer.mk sofar (.string before)).feedAll body =
      some ⟨sofar, .string (units.reverse ++ before)⟩ := by
  induction content generalizing before with
  | nil => rfl
  | @plain c body units notQuote notBackslash printable _ ih =>
    have reads : (Lexer.mk sofar (.string before)).feed c =
        some ⟨sofar, .string (.char c :: before)⟩ := by
      simp only [feed, if_neg notQuote, if_neg notBackslash, if_neg (Nat.not_lt.mpr printable)]
    rw [feedAll, reads, Option.bind_some, ih, List.reverse_cons, List.append_assoc,
      List.singleton_append]
  | @escape letter value body units known _ ih =>
    have notCode : letter ≠ 'u' := by
      rintro rfl
      cases known
    have opens : (Lexer.mk sofar (.string before)).feed '\\' = some ⟨sofar, .escape before⟩ := rfl
    have reads : (Lexer.mk sofar (.escape before)).feed letter =
        some ⟨sofar, .string (.char value :: before)⟩ := by
      simp only [feed, if_neg notCode, known, Option.map_some]
    rw [feedAll, opens, Option.bind_some, feedAll, reads, Option.bind_some, ih, List.reverse_cons,
      List.append_assoc, List.singleton_append]
  | code firstDigit secondDigit thirdDigit fourthDigit _ ih =>
    simp [feedAll, feed, firstDigit, secondDigit, thirdDigit, fourthDigit, ih]

theorem complete_string (content : Content body units) :
    (Lexer.mk sofar .between).complete ('"' :: (body ++ '"' :: rest)) =
      (Lexer.mk (.text ((assemble units).map String.ofList) :: sofar) .between).complete rest := by
  have opens : (Lexer.mk sofar .between).feed '"' = some ⟨sofar, .string []⟩ := rfl
  have collects : (Lexer.mk sofar (.string [])).feedAll body =
      some ⟨sofar, .string (units.reverse ++ [])⟩ := feedAll_content content []
  have closes : (Lexer.mk sofar (.string (units.reverse ++ []))).feed '"' =
      some ⟨.text ((assemble units).map String.ofList) :: sofar, .between⟩ := by
    simp only [feed, if_true, List.append_nil, List.reverse_reverse]
  rw [complete_cons opens, complete_append collects, complete_cons closes]

theorem begin_of_endsWord (inside : endsWord c = false) (sofar : List Token) :
    begin sofar c = ⟨sofar, .word [c]⟩ := by
  rw [endsWord, Bool.or_eq_false_iff, Bool.or_eq_false_iff, beq_eq_false_iff_ne,
    Option.isSome_eq_false_iff, Option.isNone_iff_eq_none] at inside
  obtain ⟨⟨notSpace, notQuote⟩, notPunctuation⟩ := inside
  simp only [begin, notSpace, Bool.false_eq_true, if_false, if_neg notQuote, notPunctuation]

/-- A word goes on until a character ends it. -/
theorem feedAll_word (before : List Char) (inside : ∀ c ∈ text, endsWord c = false) :
    (Lexer.mk sofar (.word before)).feedAll text = some ⟨sofar, .word (text.reverse ++ before)⟩ := by
  induction text generalizing before with
  | nil => rfl
  | cons c rest ih =>
    have goesOn := inside c List.mem_cons_self
    have others := ih (c :: before) fun other member => inside other (List.mem_cons_of_mem c member)
    simp only [feedAll, feed, goesOn, Bool.false_eq_true, if_false, Option.bind_some, others,
      List.reverse_cons, List.append_assoc, List.singleton_append]

/-- Once a word has ended, the lexer goes on as if it had cut off the token before. -/
theorem complete_ended_word (ends : ∀ c ∈ rest.head?, endsWord c = true) :
    (Lexer.mk sofar (.word run.reverse)).complete rest =
      (word? run).bind fun token => (Lexer.mk (token :: sofar) .between).complete rest := by
  cases rest with
  | nil =>
    simp only [complete, feedAll, Option.bind_some, finish, List.reverse_reverse]
    cases word? run <;> rfl
  | cons c others =>
    have breaks : endsWord c = true := ends c rfl
    simp only [complete, feedAll, feed, if_pos breaks, List.reverse_reverse]
    cases word? run <;> rfl

theorem complete_word (nonempty : run ≠ []) (inside : ∀ c ∈ run, endsWord c = false)
    (ends : ∀ c ∈ rest.head?, endsWord c = true) :
    (Lexer.mk sofar .between).complete (run ++ rest) =
      (word? run).bind fun token => (Lexer.mk (token :: sofar) .between).complete rest := by
  obtain ⟨head, tail, rfl⟩ := List.exists_cons_of_ne_nil nonempty
  have begins : (Lexer.mk sofar .between).feed head = some ⟨sofar, .word [head]⟩ :=
    congrArg some (begin_of_endsWord (inside head List.mem_cons_self) sofar)
  have goesOn : (Lexer.mk sofar (.word [head])).feedAll tail =
      some ⟨sofar, .word (head :: tail).reverse⟩ := by
    rw [List.reverse_cons]
    exact feedAll_word [head] fun c member => inside c (List.mem_cons_of_mem head member)
  rw [List.cons_append, complete_cons begins, complete_append goesOn, complete_ended_word ends]

/-- A lexeme is cut off as its token, if the token is sound. -/
theorem complete_lexeme (lexeme : Lexeme token text)
    (ends : token.isWord = true → ∀ c ∈ rest.head?, endsWord c = true) :
    (Lexer.mk sofar .between).complete (text ++ rest) =
      if token.isSound then (Lexer.mk (token :: sofar) .between).complete rest else none := by
  cases lexeme with
  | mark known =>
    rw [if_pos (noWord_and_isSound_of_punctuation? known).2]
    exact complete_mark known
  | @string _ units content =>
    have sound : (Token.text ((assemble units).map String.ofList)).isSound = true := rfl
    rw [if_pos sound, List.cons_append, List.append_assoc]
    exact complete_string content
  | word nonempty inside known =>
    obtain ⟨isWord, sound⟩ := isWord_and_isSound_of_word? known
    rw [if_pos sound, complete_word nonempty inside (ends isWord), known, Option.bind_some]
  | misspelled nonempty inside unknown =>
    rw [Token.isSound, if_neg (isNumber_of_word?_eq_none unknown),
      complete_word nonempty inside (ends rfl), unknown, Option.bind_none]

/-- One lexeme after the other is cut off. -/
theorem complete_spaced (spaced : Spaced tokens text) (apart : Apart tokens) :
    (Lexer.mk sofar .between).complete text =
      if tokens.all Token.isSound then some (sofar.reverse ++ tokens) else none := by
  induction spaced generalizing sofar with
  | @nil gap blank =>
    rw [← List.append_nil gap, complete_gap blank, List.append_nil]
    rfl
  | @cons gap lexeme text token tokens blank head tail ih =>
    rw [Apart, List.isChain_cons] at apart
    obtain ⟨neighbours, apart⟩ := apart
    have ends : token.isWord = true → ∀ c ∈ text.head?, endsWord c = true := by
      intro isWord
      refine tail.endsWord_head fun following headed => ?_
      rcases neighbours following headed with noWord | noWord
      · rw [isWord] at noWord
        cases noWord
      · exact noWord
    rw [complete_gap blank, complete_lexeme head ends, ih apart, List.all_cons]
    cases token.isSound with
    | false => rfl
    | true =>
      rw [if_pos rfl, List.reverse_cons, List.append_assoc, List.singleton_append, Bool.true_and]

end Lexer

/-- A text is cut into the tokens that it writes. -/
theorem tokens?_of_spaced (spaced : Spaced tokens text) (apart : Apart tokens) :
    tokens? text = if tokens.all Token.isSound then some tokens else none :=
  Lexer.complete_spaced spaced apart

end Xiangqi.Json
