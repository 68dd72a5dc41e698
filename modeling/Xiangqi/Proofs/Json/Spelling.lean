import Xiangqi.Json.Parser
import Xiangqi.Proofs.Json.Lexemes

/-!
# Spelled values

A value is spelled by its tokens. `Json.tokens` gives the tokens of a value; the parser puts them
together to that value again, whatever is open around it. No two names or numbers are neighbours in
them, so the parser reads every text that writes these tokens with any white space between them as
that value, unless a number in it is malformed (`parse?_of_spaced`).
-/

namespace Xiangqi.Json

mutual

/-- The tokens that spell a value. -/
def tokens : Json → List Token
  | null => [.null]
  | bool value => [.bool value]
  | number literal => [.number literal]
  | text value => [.text value]
  | array [] => [.openBracket, .closeBracket]
  | array (first :: rest) => .openBracket :: (first.tokens ++ furtherElements rest)
  | object [] => [.openBrace, .closeBrace]
  | object ((key, value) :: rest) =>
    .openBrace :: .text key :: .colon :: (value.tokens ++ furtherMembers rest)

/-- The tokens that follow an element of an array, up to the end of the array. -/
def furtherElements : List Json → List Token
  | [] => [.closeBracket]
  | first :: rest => .comma :: (first.tokens ++ furtherElements rest)

/-- The tokens that follow a member of an object, up to the end of the object. -/
def furtherMembers : List (Option String × Json) → List Token
  | [] => [.closeBrace]
  | (key, value) :: rest => .comma :: .text key :: .colon :: (value.tokens ++ furtherMembers rest)

end

/-- What may come first in an array is what may come first in any value, or the end of the array; and
no value begins with that end. -/
theorem arrayStart_takeAll_tokens (json : Json) (stack : List Frame) :
    (Progress.arrayStart stack).takeAll json.tokens =
      (Progress.value (.array [] :: stack)).takeAll json.tokens := by
  cases json with
  | null => rfl
  | bool value => rfl
  | number literal => rfl
  | text value => rfl
  | array elements => cases elements <;> rfl
  | object members => cases members <;> rfl

mutual

/-- The tokens of a value are put together to that value. -/
theorem takeAll_tokens (json : Json) (stack : List Frame) :
    (Progress.value stack).takeAll json.tokens = some (Progress.deliver json stack) := by
  cases json with
  | null => rfl
  | bool value => rfl
  | number literal => rfl
  | text value => rfl
  | array elements =>
    cases elements with
    | nil => rfl
    | cons first rest =>
      rw [tokens]
      change (Progress.arrayStart stack).takeAll (first.tokens ++ furtherElements rest) = _
      rw [Progress.takeAll_append, arrayStart_takeAll_tokens, takeAll_tokens first,
        Option.bind_some]
      exact takeAll_furtherElements [first] rest stack
  | object members =>
    cases members with
    | nil => rfl
    | cons member rest =>
      obtain ⟨key, value⟩ := member
      rw [tokens]
      change (Progress.value (.object [] key :: stack)).takeAll
        (value.tokens ++ furtherMembers rest) = _
      rw [Progress.takeAll_append, takeAll_tokens value, Option.bind_some]
      exact takeAll_furtherMembers [(key, value)] rest stack

/-- The elements read so far are kept newest first, the others follow them. -/
theorem takeAll_furtherElements (sofar rest : List Json) (stack : List Frame) :
    (Progress.afterElement sofar stack).takeAll (furtherElements rest) =
      some (Progress.deliver (.array (sofar.reverse ++ rest)) stack) := by
  cases rest with
  | nil =>
    rw [furtherElements, List.append_nil]
    rfl
  | cons first others =>
    rw [furtherElements]
    change (Progress.value (.array sofar :: stack)).takeAll
      (first.tokens ++ furtherElements others) = _
    rw [Progress.takeAll_append, takeAll_tokens first, Option.bind_some]
    refine (takeAll_furtherElements (first :: sofar) others stack).trans ?_
    rw [List.reverse_cons, List.append_assoc, List.singleton_append]

theorem takeAll_furtherMembers (sofar rest : List (Option String × Json)) (stack : List Frame) :
    (Progress.afterMember sofar stack).takeAll (furtherMembers rest) =
      some (Progress.deliver (.object (sofar.reverse ++ rest)) stack) := by
  cases rest with
  | nil =>
    rw [furtherMembers, List.append_nil]
    rfl
  | cons member others =>
    obtain ⟨key, value⟩ := member
    rw [furtherMembers]
    change (Progress.value (.object sofar key :: stack)).takeAll
      (value.tokens ++ furtherMembers others) = _
    rw [Progress.takeAll_append, takeAll_tokens value, Option.bind_some]
    refine (takeAll_furtherMembers ((key, value) :: sofar) others stack).trans ?_
    rw [List.reverse_cons, List.append_assoc, List.singleton_append]

end

theorem ofTokens?_tokens (json : Json) : ofTokens? json.tokens = some json := by
  rw [ofTokens?, takeAll_tokens]
  rfl

/-! ## Texts that write a value -/

theorem apart_singleton (token : Token) : Apart [token] :=
  List.isChain_singleton token

theorem Apart.cons_of_noWord {token : Token} {rest : List Token} (noWord : token.isWord = false)
    (apart : Apart rest) : Apart (token :: rest) :=
  List.isChain_cons.mpr ⟨fun _ _ => .inl noWord, apart⟩

theorem Apart.append_of_noWord {first rest : List Token} (before : Apart first) (after : Apart rest)
    (noWord : ∀ token ∈ rest.head?, token.isWord = false) : Apart (first ++ rest) :=
  List.isChain_append.mpr ⟨before, after, fun _ _ token head => .inr (noWord token head)⟩

theorem head?_furtherElements (rest : List Json) :
    ∀ token ∈ (furtherElements rest).head?, token.isWord = false := by
  cases rest with
  | nil =>
    rw [furtherElements]
    rintro token ⟨rfl⟩
    rfl
  | cons first others =>
    rw [furtherElements]
    rintro token ⟨rfl⟩
    rfl

theorem head?_furtherMembers (rest : List (Option String × Json)) :
    ∀ token ∈ (furtherMembers rest).head?, token.isWord = false := by
  cases rest with
  | nil =>
    rw [furtherMembers]
    rintro token ⟨rfl⟩
    rfl
  | cons first others =>
    rw [furtherMembers]
    rintro token ⟨rfl⟩
    rfl

mutual

/-- Between two names or numbers of a value there is always a comma. -/
theorem apart_tokens (json : Json) : Apart json.tokens := by
  cases json with
  | null => exact apart_singleton _
  | bool value => exact apart_singleton _
  | number literal => exact apart_singleton _
  | text value => exact apart_singleton _
  | array elements =>
    cases elements with
    | nil => exact .cons_of_noWord rfl (apart_singleton _)
    | cons first rest =>
      rw [tokens]
      exact .cons_of_noWord rfl
        ((apart_tokens first).append_of_noWord (apart_furtherElements rest)
          (head?_furtherElements rest))
  | object members =>
    cases members with
    | nil => exact .cons_of_noWord rfl (apart_singleton _)
    | cons member rest =>
      obtain ⟨key, value⟩ := member
      rw [tokens]
      exact .cons_of_noWord rfl (.cons_of_noWord rfl (.cons_of_noWord rfl
        ((apart_tokens value).append_of_noWord (apart_furtherMembers rest)
          (head?_furtherMembers rest))))

theorem apart_furtherElements (rest : List Json) : Apart (furtherElements rest) := by
  cases rest with
  | nil =>
    rw [furtherElements]
    exact apart_singleton _
  | cons first others =>
    rw [furtherElements]
    exact .cons_of_noWord rfl
      ((apart_tokens first).append_of_noWord (apart_furtherElements others)
        (head?_furtherElements others))

theorem apart_furtherMembers (rest : List (Option String × Json)) :
    Apart (furtherMembers rest) := by
  cases rest with
  | nil =>
    rw [furtherMembers]
    exact apart_singleton _
  | cons member others =>
    obtain ⟨key, value⟩ := member
    rw [furtherMembers]
    exact .cons_of_noWord rfl (.cons_of_noWord rfl (.cons_of_noWord rfl
      ((apart_tokens value).append_of_noWord (apart_furtherMembers others)
        (head?_furtherMembers others))))

end

/-- The text writes the value: its tokens, with any white space around them. -/
def Writes (text : String) (json : Json) : Prop :=
  Spaced json.tokens text.toList

/-- Every number in the value has a well-formed literal. -/
def isSound (json : Json) : Bool :=
  json.tokens.all Token.isSound

section All

variable {p : Token → Bool} (comma : p .comma = true)

include comma

theorem all_furtherElements (closed : p .closeBracket = true) (rest : List Json) :
    (furtherElements rest).all p = rest.all fun element => element.tokens.all p := by
  induction rest with
  | nil =>
    rw [furtherElements, List.all_cons, closed]
    rfl
  | cons first others ih =>
    rw [furtherElements, List.all_cons, comma, Bool.true_and, List.all_append, ih, List.all_cons]

theorem all_furtherMembers (closed : p .closeBrace = true) (colon : p .colon = true)
    (rest : List (Option String × Json)) : (furtherMembers rest).all p =
      rest.all fun member => p (.text member.1) && member.2.tokens.all p := by
  induction rest with
  | nil =>
    rw [furtherMembers, List.all_cons, closed]
    rfl
  | cons member others ih =>
    obtain ⟨key, value⟩ := member
    rw [furtherMembers, List.all_cons, List.all_cons, List.all_cons, comma, colon, Bool.true_and,
      Bool.true_and, List.all_append, ih, List.all_cons, Bool.and_assoc]

/-- What is true of all brackets and commas is true of an array if it is true of its elements. -/
theorem all_tokens_array (opened : p .openBracket = true) (closed : p .closeBracket = true)
    (elements : List Json) :
    (array elements).tokens.all p = elements.all fun element => element.tokens.all p := by
  cases elements with
  | nil =>
    rw [tokens, List.all_cons, List.all_cons, opened, closed]
    rfl
  | cons first rest =>
    rw [tokens, List.all_cons, opened, Bool.true_and, List.all_append,
      all_furtherElements comma closed, List.all_cons]

theorem all_tokens_object (opened : p .openBrace = true) (closed : p .closeBrace = true)
    (colon : p .colon = true) (members : List (Option String × Json)) :
    (object members).tokens.all p =
      members.all fun member => p (.text member.1) && member.2.tokens.all p := by
  cases members with
  | nil =>
    rw [tokens, List.all_cons, List.all_cons, opened, closed]
    rfl
  | cons member rest =>
    obtain ⟨key, value⟩ := member
    rw [tokens, List.all_cons, List.all_cons, List.all_cons, opened, colon, Bool.true_and,
      Bool.true_and, List.all_append, all_furtherMembers comma closed colon, List.all_cons,
      Bool.and_assoc]

end All

theorem isSound_array (elements : List Json) : (array elements).isSound = elements.all isSound :=
  all_tokens_array rfl rfl rfl elements

theorem isSound_object (members : List (Option String × Json)) :
    (object members).isSound = members.all fun member => member.2.isSound :=
  all_tokens_object rfl rfl rfl rfl members

/-- A text that writes a value is read as that value if every number in it is well-formed, and is not
read at all otherwise. -/
theorem Writes.parse?_eq {text : String} {json : Json} (writes : Writes text json) :
    parse? text = if json.isSound then some json else none := by
  rw [parse?, tokens?_of_spaced writes (apart_tokens json), isSound]
  cases json.tokens.all Token.isSound with
  | false => rfl
  | true => exact ofTokens?_tokens json

end Xiangqi.Json
