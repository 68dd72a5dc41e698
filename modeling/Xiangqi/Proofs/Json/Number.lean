import Mathlib.Data.List.TakeWhile
import Xiangqi.Json.Basic
import Xiangqi.Proofs.Json.Spelling
import Xiangqi.Proofs.Text.Decimal

/-!
# Numbers in JSON texts

A number is written without white space, punctuation or quotation marks, so it is one lexeme
(`inside_of_isNumber`). Of the well-formed literals exactly the printed integers are read as 32-bit
integers (`int32?_eq_some_iff_decimal`): a plus, a superfluous leading zero, a fraction and an
exponent are all refused, by the syntax or by the reading, and so is a minus before a zero.
-/

namespace Xiangqi.Json

variable {text rest digits literal : List Char} {c : Char}

theorem endsWord_of_isDigit (digit : c.isDigit = true) : Lexer.endsWord c = false := by
  rw [Lexer.endsWord, Bool.or_eq_false_iff, Bool.or_eq_false_iff]
  refine ⟨⟨?_, ?_⟩, ?_⟩
  · rw [Bool.eq_false_iff]
    intro space
    simp only [isSpace, Bool.or_eq_true, beq_iff_eq] at space
    rcases space with ((rfl | rfl) | rfl) | rfl <;> exact absurd digit (by decide)
  · rw [beq_eq_false_iff_ne]
    rintro rfl
    exact absurd digit (by decide)
  · unfold punctuation?
    split
    case h_7 => rfl
    all_goals exact absurd digit (by decide)

/-! ## A number is one word -/

/-- What the function takes off the front of a text are characters that go on with a word. -/
def TakesWord (drop : List Char → Option (List Char)) : Prop :=
  ∀ text rest : List Char, drop text = some rest →
    ∃ taken, text = taken ++ rest ∧ ∀ c ∈ taken, Lexer.endsWord c = false

theorem TakesWord.bind {first second : List Char → Option (List Char)} (takes : TakesWord first)
    (next : TakesWord second) : TakesWord fun text => (first text).bind second := by
  intro text rest dropped
  obtain ⟨middle, firstDropped, secondDropped⟩ := Option.bind_eq_some_iff.mp dropped
  obtain ⟨taken, rfl, inside⟩ := takes text middle firstDropped
  obtain ⟨further, rfl, alsoInside⟩ := next middle rest secondDropped
  refine ⟨taken ++ further, (List.append_assoc _ _ _).symm, fun c member => ?_⟩
  rcases List.mem_append.mp member with before | after
  · exact inside c before
  · exact alsoInside c after

/-- A character of a word before what is taken off anyway. -/
theorem TakesWord.cons {drop : List Char → Option (List Char)} (takes : TakesWord drop)
    (goesOn : Lexer.endsWord c = false) (dropped : drop text = some rest) :
    ∃ taken, c :: text = taken ++ rest ∧ ∀ c ∈ taken, Lexer.endsWord c = false := by
  obtain ⟨taken, rfl, inside⟩ := takes text rest dropped
  exact ⟨c :: taken, rfl, List.forall_mem_cons.mpr ⟨goesOn, inside⟩⟩

theorem takesWord_some : TakesWord some := by
  rintro text rest ⟨rfl⟩
  exact ⟨[], rfl, fun _ member => absurd member List.not_mem_nil⟩

theorem takesWord_dropDigits? : TakesWord dropDigits? := by
  intro text rest dropped
  cases text with
  | nil => cases dropped
  | cons first others =>
    rw [dropDigits?, Option.ite_none_right_eq_some, Option.some.injEq] at dropped
    obtain ⟨digit, rfl⟩ := dropped
    refine ⟨first :: others.takeWhile Char.isDigit, ?_, ?_⟩
    · rw [List.cons_append, List.takeWhile_append_dropWhile]
    · exact List.forall_mem_cons.mpr ⟨endsWord_of_isDigit digit, fun c member =>
        endsWord_of_isDigit (List.mem_takeWhile_imp member)⟩

theorem takesWord_dropWhole? : TakesWord dropWhole? := by
  intro text rest dropped
  unfold dropWhole? at dropped
  split at dropped
  · exact takesWord_some.cons rfl dropped
  · exact takesWord_dropDigits? _ _ dropped

theorem takesWord_dropFraction? : TakesWord dropFraction? := by
  intro text rest dropped
  unfold dropFraction? at dropped
  split at dropped
  · exact takesWord_dropDigits?.cons rfl dropped
  · exact takesWord_some _ _ dropped

theorem takesWord_dropSign : TakesWord fun text => some (dropSign text) := by
  rintro text rest ⟨rfl⟩
  unfold dropSign
  split
  · exact takesWord_some.cons rfl rfl
  · exact takesWord_some.cons rfl rfl
  · exact takesWord_some _ _ rfl

theorem takesWord_dropExponent? : TakesWord dropExponent? := by
  have signed := takesWord_dropSign.bind takesWord_dropDigits?
  intro text rest dropped
  unfold dropExponent? at dropped
  split at dropped
  · exact signed.cons rfl dropped
  · exact signed.cons rfl dropped
  · exact takesWord_some _ _ dropped

theorem takesWord_dropMinus : TakesWord fun text => some (dropMinus text) := by
  rintro text rest ⟨rfl⟩
  unfold dropMinus
  split
  · exact takesWord_some.cons rfl rfl
  · exact takesWord_some _ _ rfl

/-- No character of a number ends a word. -/
theorem inside_of_isNumber (number : isNumber text = true) :
    ∀ c ∈ text, Lexer.endsWord c = false := by
  have takes := ((takesWord_dropMinus.bind takesWord_dropWhole?).bind takesWord_dropFraction?).bind
    takesWord_dropExponent?
  rw [isNumber, beq_iff_eq] at number
  obtain ⟨taken, rfl, inside⟩ := takes text [] number
  rwa [List.append_nil]

theorem Lexeme.number (number : isNumber text = true) : Lexeme (.number text) text := by
  have nonempty : text ≠ [] := by
    rintro rfl
    exact absurd number (by decide)
  exact .word nonempty (inside_of_isNumber number) (word?_of_isNumber number)

/-! ## Integers -/

theorem dropMinus_of_isDigits (run : Text.IsDigits digits) : dropMinus digits = digits := by
  unfold dropMinus
  split
  · exact absurd (run.2 '-' List.mem_cons_self) (by decide)
  · rfl

/-- A digit run is a number if it is a zero or begins with another digit. -/
theorem dropWhole?_of_isDigits (run : Text.IsDigits digits)
    (noZero : digits = ['0'] ∨ digits.head? ≠ some '0') :
    dropWhole? digits = some [] := by
  rcases noZero with rfl | noZero
  · rfl
  · obtain ⟨nonempty, allDigits⟩ := run
    unfold dropWhole?
    split
    · exact absurd rfl noZero
    · obtain ⟨first, others, rfl⟩ := List.exists_cons_of_ne_nil nonempty
      have tail : others.dropWhile Char.isDigit = [] :=
        List.dropWhile_eq_nil_iff.mpr fun c member => allDigits c (List.mem_cons_of_mem first member)
      rw [dropDigits?, if_pos (allDigits first List.mem_cons_self), tail]

theorem dropWhole?_toDigits (n : Nat) : dropWhole? (Nat.toDigits 10 n) = some [] := by
  apply dropWhole?_of_isDigits (Text.isDigits_toDigits n)
  rcases Text.toDigits_cases n with zero | ⟨first, rest, digits, nonzero⟩
  · exact .inl zero
  · refine .inr fun zero => nonzero ?_
    rw [digits, List.head?_cons] at zero
    exact Option.some.inj zero

/-- A digit run that is a number has no superfluous leading zero: what follows a zero would have to
be a point or an exponent. -/
theorem noZero_of_isNumber (run : Text.IsDigits digits)
    (number : ((dropWhole? digits).bind dropFraction?).bind dropExponent? = some []) :
    digits = ['0'] ∨ digits.head? ≠ some '0' := by
  rw [or_iff_not_imp_right, not_not]
  intro zero
  obtain ⟨others, rfl⟩ := List.head?_eq_some_iff.mp zero
  cases others with
  | nil => rfl
  | cons second further =>
    have digit : second.isDigit = true := run.2 second (List.mem_cons_of_mem _ List.mem_cons_self)
    have noPoint : dropFraction? (second :: further) = some (second :: further) := by
      unfold dropFraction?
      split
      · rename_i point
        cases point
        exact absurd digit (by decide)
      · rfl
    have noExponent : dropExponent? (second :: further) = some (second :: further) := by
      unfold dropExponent?
      split
      · rename_i letter
        cases letter
        exact absurd digit (by decide)
      · rename_i letter
        cases letter
        exact absurd digit (by decide)
      · rfl
    rw [dropWhole?, Option.bind_some, noPoint, Option.bind_some, noExponent] at number
    cases number

/-- A printed integer is a number without fraction and exponent. -/
theorem isNumber_toString (value : Int) : isNumber (toString value).toList = true := by
  have whole : dropWhole? (dropMinus (toString value).toList) = some [] := by
    rw [Text.toList_toString]
    split
    · rw [dropMinus_of_isDigits (Text.isDigits_toDigits _), dropWhole?_toDigits]
    · exact dropWhole?_toDigits _
  rw [isNumber, whole]
  rfl

/-- A number that spells an integer is its printed form, unless it has a minus before a zero. -/
theorem eq_toString_of_literal {value : Int} (number : isNumber literal = true)
    (plain : literal ≠ ['-', '0']) (spelled : Text.Literal literal value) :
    literal = (toString value).toList := by
  rw [isNumber, beq_iff_eq] at number
  cases spelled with
  | unsigned run =>
    rw [dropMinus_of_isDigits run] at number
    rw [Text.toList_toString, if_pos (Int.natCast_nonneg _), Int.toNat_natCast]
    rcases noZero_of_isNumber run number with rfl | noZero
    · rfl
    · exact (Text.toDigits_ofDigitChars run noZero).1.symm
  | plus run => cases number
  | @minus digits run =>
    rcases noZero_of_isNumber run number with rfl | noZero
    · exact absurd rfl plain
    · obtain ⟨printed, positive⟩ := Text.toDigits_ofDigitChars run noZero
      rw [Text.toList_toString, if_neg (by omega), Int.neg_neg, Int.toNat_natCast, printed]

/-- The number with the printed form of the integer as its literal. -/
def decimal (value : Int32) : Json :=
  .number (toString value.toInt).toList

theorem isSound_decimal (value : Int32) : (decimal value).isSound = true := by
  rw [isSound, decimal, tokens, List.all_cons, Token.isSound, isNumber_toString]
  rfl

/-- A printed 32-bit integer is the number that it was printed from; zero is printed without a minus,
so it is none of the literals that are refused. -/
theorem int32?_decimal (value : Int32) : (decimal value).int32? = some value := by
  have plain : (toString value.toInt).toList ≠ ['-', '0'] := by
    intro minusZero
    have read := Text.integer?_eq_some_iff.mpr (Text.literal_toString value.toInt)
    rw [minusZero] at read
    have zero : value.toInt = 0 := (Option.some.inj read).symm
    rw [zero] at minusZero
    exact absurd minusZero (by decide)
  rw [decimal, int32?, if_neg plain, Text.int32?_eq_some_iff]
  exact Text.literal_toString value.toInt

/-- A value without malformed numbers is read as a 32-bit integer exactly if it is the printed form
of that integer. -/
theorem int32?_eq_some_iff_decimal {json : Json} {value : Int32} (sound : json.isSound = true) :
    json.int32? = some value ↔ json = decimal value := by
  refine ⟨fun read => ?_, fun same => same ▸ int32?_decimal value⟩
  cases json with
  | number literal =>
    rw [int32?, Option.ite_none_left_eq_some, Text.int32?_eq_some_iff] at read
    have number : isNumber literal = true := by
      rwa [isSound, tokens, List.all_cons, List.all_nil, Bool.and_true] at sound
    exact congrArg Json.number (eq_toString_of_literal number read.1 read.2)
  | null => cases read
  | bool truth => cases read
  | text content => cases read
  | array elements => cases read
  | object members => cases read

end Xiangqi.Json
