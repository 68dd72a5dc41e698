import Mathlib.Data.List.Nodup
import Xiangqi.Toml.Parser

/-!
# Texts with one value a line

The simplest settings text has a key without quotation marks on each line, and a text or a truth value for
it. `Toml.document` writes such lines; whether there is a line feed behind the last one does not matter.
The lexer cuts each line into three tokens. Of these only a text with something in it ends by itself: a
word, and the two quotation marks of an empty text, are complete once a line feed or the end of the text
follows (`Lexer.Settles`). The lines are read as the table of their keys if no key is repeated
(`parse?_document`).
-/

namespace Xiangqi.Toml

/-- A value that is written on one line. -/
inductive Scalar where
  | text (value : String)
  | bool (value : Bool)

/-- How the value is written: a text between quotation marks, as it is. -/
def Scalar.written : Scalar → String
  | .text value => "\"" ++ value ++ "\""
  | .bool true => "true"
  | .bool false => "false"

def Scalar.token : Scalar → Token
  | .text value => .text value false
  | .bool true => .word ['t', 'r', 'u', 'e']
  | .bool false => .word ['f', 'a', 'l', 's', 'e']

def Scalar.item : Scalar → Item
  | .text value => .text value
  | .bool value => .bool value

/-- The value needs no escapes. -/
def Scalar.IsPlain : Scalar → Prop
  | .text value => ∀ c ∈ value.toList, isPlain c = true ∧ c ≠ '"' ∧ c ≠ '\\'
  | .bool _ => True

/-- The text may stand as a key without quotation marks. -/
def IsBareKey (key : String) : Prop :=
  key ≠ "" ∧ ∀ c ∈ key.toList, isBare c = true

-- The instance for lists is named, as there is another one that would try every character there is.
instance (key : String) : Decidable (IsBareKey key) :=
  @instDecidableAnd _ _ inferInstance (List.decidableBAll _ _)

/-- A key and its value. -/
structure Line where
  key : String
  value : Scalar

namespace Line

/-- How the line is written. -/
def written (line : Line) : String :=
  line.key ++ " = " ++ line.value.written

def tokens (line : Line) : List Token :=
  [.word line.key.toList, .equals, line.value.token]

def statement (line : Line) : Statement :=
  .assign [line.key] line.value.item

def member (line : Line) : String × Item :=
  (line.key, line.value.item)

/-- The key and the value can be written as they are. -/
structure IsPlain (line : Line) : Prop where
  key : IsBareKey line.key
  value : line.value.IsPlain

end Line

/-- The lines with a line feed between any two of them, and behind the last one if it is ended. -/
def document (lines : List Line) (ended : Bool) : String :=
  "\n".intercalate (lines.map Line.written) ++ if ended then "\n" else ""

/-- The tokens of the lines, line ends included. -/
def documentTokens (lines : List Line) (ended : Bool) : List Token :=
  [Token.lineEnd].intercalate (lines.map Line.tokens) ++ if ended then [.lineEnd] else []

variable (sofar : List Token) {chars : List Char} {c : Char} {line : Line} {lines : List Line}

theorem toList_document_cons_cons (line next : Line) (others : List Line) (ended : Bool) :
    (document (line :: next :: others) ended).toList =
      line.written.toList ++ '\n' :: (document (next :: others) ended).toList := by
  simp [document, String.toList_append, String.toList_intercalate]

theorem documentTokens_cons_cons (line next : Line) (others : List Line) (ended : Bool) :
    documentTokens (line :: next :: others) ended =
      line.tokens ++ .lineEnd :: documentTokens (next :: others) ended := by
  simp [documentTokens, List.intercalate_cons_cons]

/-! ## How the lexer reads a line -/

namespace Lexer

/-- The lexer has these tokens, newest first, if now the line or the text ends. -/
structure Settles (lexer : Lexer) (tokens : List Token) : Prop where
  finish_eq : lexer.finish = some tokens.reverse
  feed_eq : lexer.feed '\n' = some ⟨.lineEnd :: tokens, .between⟩

theorem settles_between (tokens : List Token) : (Lexer.mk tokens .between).Settles tokens := by
  constructor
  · rfl
  · rfl

theorem settles_word (chars : List Char) :
    (Lexer.mk sofar (.word chars)).Settles (.word chars.reverse :: sofar) := by
  constructor
  · rfl
  · rfl

theorem settles_quotes :
    (Lexer.mk sofar (.quotes .basic)).Settles (.text "" false :: sofar) := by
  constructor
  · rfl
  · rfl

/-- A bare character opens a word. -/
theorem feed_bare (bare : isBare c = true) :
    (Lexer.mk sofar .between).feed c = some ⟨sofar, .word [c]⟩ := by
  have others : ∀ d ∈ [' ', '\t', '\n', '\r', '#', '"', '\''], c ≠ d := by
    intro d member same
    have unbare : ([' ', '\t', '\n', '\r', '#', '"', '\''].all fun d => !isBare d) = true := rfl
    rw [List.all_eq_true] at unbare
    simpa [← same, bare] using unbare d member
  simp only [List.forall_mem_cons, List.not_mem_nil, false_implies, implies_true, and_true] at others
  simp [feed, between, isSpace, others, bare, goTo]

/-- A word goes on as long as its characters are bare. -/
theorem feedAll_bare (bare : ∀ c ∈ chars, isBare c = true) (before : List Char) :
    (Lexer.mk sofar (.word before)).feedAll chars = some ⟨sofar, .word (chars.reverse ++ before)⟩ := by
  induction chars generalizing before with
  | nil => rfl
  | cons c rest ih =>
    have here := bare c List.mem_cons_self
    have further := ih (fun d member => bare d (List.mem_cons_of_mem c member)) (c :: before)
    simp [feedAll, feed, here, goTo, further]

theorem feedAll_word (nonempty : chars ≠ []) (bare : ∀ c ∈ chars, isBare c = true) :
    (Lexer.mk sofar .between).feedAll chars = some ⟨sofar, .word chars.reverse⟩ := by
  cases chars with
  | nil => exact absurd rfl nonempty
  | cons c rest =>
    have opens := feed_bare sofar (bare c List.mem_cons_self)
    have goesOn := feedAll_bare sofar (fun d member => bare d (List.mem_cons_of_mem c member)) [c]
    rw [feedAll, opens, Option.bind_some, goesOn, List.reverse_cons]

/-- After a key come an equals sign and a value. -/
theorem feedAll_key (nonempty : chars ≠ []) (bare : ∀ c ∈ chars, isBare c = true) :
    (Lexer.mk sofar .between).feedAll (chars ++ [' ', '=', ' ']) =
      some ⟨.equals :: .word chars :: sofar, .between⟩ := by
  have signs : (Lexer.mk sofar (.word chars.reverse)).feedAll [' ', '=', ' '] =
      some ⟨.equals :: .word chars.reverse.reverse :: sofar, .between⟩ := rfl
  rw [feedAll_append, feedAll_word sofar nonempty bare, Option.bind_some, signs, List.reverse_reverse]

/-- In a text that needs no escapes the characters are collected, newest first. -/
theorem feedAll_plain (plain : ∀ c ∈ chars, isPlain c = true ∧ c ≠ '"' ∧ c ≠ '\\')
    (before : List Char) :
    (Lexer.mk sofar (.line .basic before)).feedAll chars =
      some ⟨sofar, .line .basic (chars.reverse ++ before)⟩ := by
  induction chars generalizing before with
  | nil => rfl
  | cons c rest ih =>
    obtain ⟨isPlain, notQuote, notBackslash⟩ := plain c List.mem_cons_self
    have further := ih (fun d member => plain d (List.mem_cons_of_mem c member)) (c :: before)
    simp [feedAll, feed, inLine, Quote.mark, isPlain, notQuote, notBackslash, goTo, further]

theorem feedAll_text {value : String}
    (plain : ∀ c ∈ value.toList, isPlain c = true ∧ c ≠ '"' ∧ c ≠ '\\') :
    ∃ lexer, (Lexer.mk sofar .between).feedAll (Scalar.text value).written.toList = some lexer ∧
      lexer.Settles (.text value false :: sofar) := by
  have opens : (Lexer.mk sofar .between).feed '"' = some ⟨sofar, .quote .basic⟩ := rfl
  have written : (Scalar.text value).written.toList = '"' :: (value.toList ++ ['"']) := by
    simp [Scalar.written, String.toList_append]
  rw [written, feedAll, opens, Option.bind_some]
  cases shape : value.toList with
  | nil =>
    have empty : value = "" := String.toList_eq_nil_iff.mp shape
    rw [empty]
    exact ⟨_, rfl, settles_quotes sofar⟩
  | cons c rest =>
    rw [shape] at plain
    obtain ⟨isPlain, notQuote, notBackslash⟩ := plain c List.mem_cons_self
    have first : (Lexer.mk sofar (.quote .basic)).feed c = some ⟨sofar, .line .basic [c]⟩ := by
      simp [feed, inLine, Quote.mark, isPlain, notQuote, notBackslash, goTo]
    have collects := feedAll_plain sofar (fun d member => plain d (List.mem_cons_of_mem c member)) [c]
    have closes : (Lexer.mk sofar (.line .basic (c :: rest).reverse)).feedAll ['"'] =
        some ⟨.text (String.ofList (c :: rest).reverse.reverse) false :: sofar, .between⟩ := rfl
    refine ⟨⟨.text value false :: sofar, .between⟩, ?_, settles_between _⟩
    rw [List.cons_append, feedAll, first, Option.bind_some, feedAll_append, collects,
      Option.bind_some, ← List.reverse_cons, closes, List.reverse_reverse, ← shape,
      String.ofList_toList]

theorem feedAll_scalar {value : Scalar} (plain : value.IsPlain) :
    ∃ lexer, (Lexer.mk sofar .between).feedAll value.written.toList = some lexer ∧
      lexer.Settles (value.token :: sofar) := by
  cases value with
  | text value => exact feedAll_text sofar plain
  | bool value =>
    cases value with
    | true => exact ⟨_, rfl, settles_word sofar _⟩
    | false => exact ⟨_, rfl, settles_word sofar _⟩

/-- A line is cut into its three tokens, once it ends. -/
theorem feedAll_line (plain : line.IsPlain) :
    ∃ lexer, (Lexer.mk sofar .between).feedAll line.written.toList = some lexer ∧
      lexer.Settles (line.tokens.reverse ++ sofar) := by
  have nonempty : line.key.toList ≠ [] := by
    rw [Ne, String.toList_eq_nil_iff]
    exact plain.key.1
  have written : line.written.toList = line.key.toList ++ [' ', '=', ' '] ++
      line.value.written.toList := by
    simp [Line.written, String.toList_append]
  obtain ⟨lexer, reads, settles⟩ :=
    feedAll_scalar (.equals :: .word line.key.toList :: sofar) plain.value
  refine ⟨lexer, ?_, settles⟩
  rw [written, feedAll_append, feedAll_key sofar nonempty plain.key.2, Option.bind_some, reads]

theorem complete_line (plain : line.IsPlain) :
    ((Lexer.mk sofar .between).feedAll line.written.toList).bind finish =
      some (sofar.reverse ++ line.tokens) := by
  obtain ⟨lexer, reads, settles⟩ := feedAll_line sofar plain
  rw [reads, Option.bind_some, settles.finish_eq, List.reverse_append, List.reverse_reverse]

theorem complete_line_append (plain : line.IsPlain) (rest : List Char) :
    ((Lexer.mk sofar .between).feedAll (line.written.toList ++ '\n' :: rest)).bind finish =
      ((Lexer.mk (.lineEnd :: (line.tokens.reverse ++ sofar)) .between).feedAll rest).bind finish := by
  obtain ⟨lexer, reads, settles⟩ := feedAll_line sofar plain
  rw [feedAll_append, reads, Option.bind_some, feedAll, settles.feed_eq, Option.bind_some]

/-- A document is cut into the tokens of its lines. -/
theorem complete_document (plain : ∀ line ∈ lines, line.IsPlain) (ended : Bool) :
    ((Lexer.mk sofar .between).feedAll (document lines ended).toList).bind finish =
      some (sofar.reverse ++ documentTokens lines ended) := by
  induction lines generalizing sofar with
  | nil =>
    cases ended with
    | true => simp [document, documentTokens, feedAll, feed, between, isSpace, emit, finish]
    | false => simp [document, documentTokens, feedAll, finish]
  | cons line rest ih =>
    have here := plain line List.mem_cons_self
    cases rest with
    | nil =>
      cases ended with
      | true =>
        have more := complete_line_append sofar here []
        simpa [document, documentTokens, String.toList_append, feedAll, finish] using more
      | false =>
        have last := complete_line sofar here
        simpa [document, documentTokens, String.toList_append] using last
    | cons next others =>
      have further := ih (.lineEnd :: (line.tokens.reverse ++ sofar))
        fun other member => plain other (List.mem_cons_of_mem line member)
      rw [toList_document_cons_cons, complete_line_append sofar here, further,
        documentTokens_cons_cons]
      simp

end Lexer

/-- Plain lines do not begin with a byte order mark, so nothing of them is skipped. -/
theorem tokens?_document (plain : ∀ line ∈ lines, line.IsPlain) (ended : Bool) :
    tokens? (document lines ended).toList = some (documentTokens lines ended) := by
  have cut := Lexer.complete_document [] plain ended
  have mark : (Lexer.mk [] .between).feed '\ufeff' = none := rfl
  unfold tokens?
  split
  · rename_i rest begins
    rw [begins, Lexer.feedAll, mark] at cut
    cases cut
  · exact cut

/-! ## How the lines are put together -/

namespace Progress

theorem takeAll_line (line : Line) (statements : List Statement) :
    (Progress.mk statements .lineStart).takeAll line.tokens =
      some ⟨line.statement :: statements, .lineEnd⟩ := by
  obtain ⟨key, value⟩ := line
  have part : (Token.word key.toList).keyPart? = some key := by
    simp [Token.keyPart?]
  cases value with
  | text value => simp [takeAll, take, takeKeyPart, part, takeEquals, beginValue, deliver, goTo,
      Line.tokens, Line.statement, Scalar.token, Scalar.item]
  | bool value =>
    cases value <;> simp [takeAll, take, takeKeyPart, part, takeEquals, beginValue, deliver, goTo,
      Line.tokens, Line.statement, Scalar.token, Scalar.item]

/-- Each line of a document is a statement. -/
theorem complete_document (lines : List Line) (ended : Bool) (statements : List Statement) :
    ((Progress.mk statements .lineStart).takeAll (documentTokens lines ended)).bind finish =
      some (statements.reverse ++ lines.map Line.statement) := by
  induction lines generalizing statements with
  | nil => cases ended <;> simp [documentTokens, takeAll, take, finish]
  | cons line rest ih =>
    have here := takeAll_line line statements
    cases rest with
    | nil =>
      cases ended <;> simp [documentTokens, takeAll_append, here, takeAll, take, finish, goTo]
    | cons next others =>
      have lineEnds : (Progress.mk (line.statement :: statements) .lineEnd).take .lineEnd =
        some ⟨line.statement :: statements, .lineStart⟩ := rfl
      rw [documentTokens_cons_cons, takeAll_append, here, Option.bind_some, takeAll, lineEnds,
        Option.bind_some, ih]
      simp

end Progress

/-! ## The table of a document -/

theorem get?_eq_none_iff {members : Members} {key : String} :
    members.get? key = none ↔ key ∉ members.map Prod.fst := by
  simp only [Members.get?, Option.map_eq_none_iff, List.find?_eq_none, beq_iff_eq, List.mem_map,
    not_exists, not_and]

/-- A line adds its member at the end, unless its key is taken. -/
theorem take_statement (members : Members) (line : Line) :
    Document.take ⟨members, []⟩ line.statement =
      if line.key ∈ members.map Prod.fst then none else some ⟨members ++ [line.member], []⟩ := by
  by_cases taken : line.key ∈ members.map Prod.fst
  · obtain ⟨item, found⟩ : ∃ item, members.get? line.key = some item := by
      rw [← Option.ne_none_iff_exists', Ne, get?_eq_none_iff, not_not]
      exact taken
    rw [if_pos taken]
    simp [Document.take, Line.statement, Members.within, Members.assign, Members.alter, found]
  · have found := get?_eq_none_iff.mpr taken
    have added : members.put line.key line.value.item = members ++ [line.member] := by
      have absent : (members.any fun member => member.1 == line.key) = false := by
        rw [List.any_eq_false]
        intro member inside
        rw [beq_iff_eq]
        intro same
        exact taken (same ▸ List.mem_map_of_mem inside)
      rw [Members.put, absent, if_neg Bool.false_ne_true, Line.member]
    rw [if_neg taken]
    simp [Document.take, Line.statement, Members.within, Members.assign, Members.alter, found, added]

/-- Line by line the members are added, as long as no key is repeated. -/
theorem foldlM_statements (lines : List Line) {members : Members}
    (distinct : (members.map Prod.fst).Nodup) :
    (lines.map Line.statement).foldlM Document.take ⟨members, []⟩ =
      if (members.map Prod.fst ++ lines.map Line.key).Nodup then
        some ⟨members ++ lines.map Line.member, []⟩
      else none := by
  induction lines generalizing members with
  | nil => simp [distinct]
  | cons line rest ih =>
    rw [List.map_cons, List.foldlM_cons, take_statement]
    by_cases taken : line.key ∈ members.map Prod.fst
    · have repeated : ¬ (members.map Prod.fst ++ (line :: rest).map Line.key).Nodup := by
        intro apart
        exact (List.nodup_append.mp apart).2.2 _ taken _ List.mem_cons_self rfl
      rw [if_pos taken, if_neg repeated]
      rfl
    · have stillDistinct : ((members ++ [line.member]).map Prod.fst).Nodup := by
        rw [List.map_append, List.map_singleton, ← List.concat_eq_append]
        exact List.Nodup.concat taken distinct
      rw [if_neg taken]
      simpa [Line.member] using ih stillDistinct

/-- A document of plain lines describes the table of their keys, unless a key is repeated. -/
theorem parse?_document (plain : ∀ line ∈ lines, line.IsPlain) (ended : Bool) :
    parse? (document lines ended) =
      if (lines.map Line.key).Nodup then some (lines.map Line.member) else none := by
  have cut := tokens?_document plain ended
  have put := Progress.complete_document lines ended []
  have noKeys : (([] : Members).map Prod.fst).Nodup := List.nodup_nil
  have table := foldlM_statements lines noKeys
  rw [List.map_nil, List.nil_append, List.nil_append] at table
  simp only [parse?, cut, statements?, put, Document.ofStatements?, List.reverse_nil,
    List.nil_append, bind, Option.bind_some, table]
  by_cases distinct : (lines.map Line.key).Nodup
  · simp [distinct]
  · simp [distinct]

end Xiangqi.Toml
