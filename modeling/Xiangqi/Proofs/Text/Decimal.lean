import Mathlib.Data.List.Induction
import Mathlib.Tactic.IntervalCases
import Xiangqi.Text.Numeral

/-!
# Printed integers and integer literals

An integer is printed as its decimal digits, with a minus before them if it is negative; no digit run
has a superfluous leading zero. What is read is more: any digits with at most one sign before them
(`Literal`), as long as their value fits into 32 bits (`int32?_eq_some_iff`). What is printed is one
of the literals of an integer (`literal_toString`), so it is read back.
-/

namespace Xiangqi.Text

theorem toList_toString_nat (n : Nat) : (toString n).toList = Nat.toDigits 10 n := by
  rw [Nat.toString_eq_repr, Nat.repr_eq_ofList_toDigits, String.toList_ofList]

theorem toList_toString (value : Int) :
    (toString value).toList =
      if 0 ≤ value then Nat.toDigits 10 value.toNat else '-' :: Nat.toDigits 10 (-value).toNat := by
  rw [Int.toString_eq_repr, Int.repr_eq_if]
  split
  · rw [Nat.repr_eq_ofList_toDigits, String.toList_ofList]
  · rw [Nat.repr_eq_ofList_toDigits, String.toList_append]
    exact congrArg _ String.toList_ofList

theorem isDigit_of_mem_toDigits {n : Nat} {c : Char} (member : c ∈ Nat.toDigits 10 n) :
    c.isDigit = true :=
  Nat.isDigit_of_mem_toDigits (by decide) (by decide) member

/-- The digits of a number are those of zero, or begin with another digit than zero. -/
theorem toDigits_cases (n : Nat) :
    Nat.toDigits 10 n = ['0'] ∨ ∃ first rest, Nat.toDigits 10 n = first :: rest ∧ first ≠ '0' := by
  induction n using Nat.strongRecOn with
  | ind n ih =>
    by_cases small : n < 10
    · rw [Nat.toDigits_of_lt_base small]
      by_cases zero : n.digitChar = '0'
      · exact .inl (by rw [zero])
      · exact .inr ⟨_, [], rfl, zero⟩
    · have large : 10 ≤ n := Nat.le_of_not_lt small
      have split := Nat.toDigits_of_base_le (b := 10) (by decide) large
      rw [split]
      rcases ih (n / 10) (by omega) with zero | ⟨first, rest, digits, nonzero⟩
      · have value : Nat.ofDigitChars 10 ['0'] 0 = n / 10 := by
          rw [← zero, Nat.ofDigitChars_ten_toDigits]
        have nothing : n / 10 = 0 := value.symm
        omega
      · exact .inr ⟨first, rest ++ [(n % 10).digitChar], by rw [digits, List.cons_append], nonzero⟩

/-- The text is one or more ASCII digits. -/
def IsDigits (text : List Char) : Prop :=
  text ≠ [] ∧ ∀ c ∈ text, c.isDigit = true

/-- The text spells the integer: ASCII digits, with at most one sign before them. -/
inductive Literal : List Char → Int → Prop
  | unsigned {digits : List Char} (run : IsDigits digits) :
    Literal digits (Nat.ofDigitChars 10 digits 0 : Nat)
  | plus {digits : List Char} (run : IsDigits digits) :
    Literal ('+' :: digits) (Nat.ofDigitChars 10 digits 0 : Nat)
  | minus {digits : List Char} (run : IsDigits digits) :
    Literal ('-' :: digits) (-(Nat.ofDigitChars 10 digits 0 : Nat))

variable {text : List Char} {c : Char}

theorem isDigits_toDigits (n : Nat) : IsDigits (Nat.toDigits 10 n) :=
  ⟨Nat.toDigits_ne_nil, fun _ => isDigit_of_mem_toDigits⟩

theorem Literal.nonempty {value : Int} (literal : Literal text value) : text ≠ [] := by
  cases literal with
  | unsigned run => exact run.1
  | plus run => exact List.cons_ne_nil _ _
  | minus run => exact List.cons_ne_nil _ _

theorem Literal.cases_of_mem {value : Int} (literal : Literal text value) (member : c ∈ text) :
    c.isDigit = true ∨ c = '+' ∨ c = '-' := by
  cases literal with
  | unsigned run => exact .inl (run.2 c member)
  | plus run =>
    rcases List.mem_cons.mp member with sign | digit
    · exact .inr (.inl sign)
    · exact .inl (run.2 c digit)
  | minus run =>
    rcases List.mem_cons.mp member with sign | digit
    · exact .inr (.inr sign)
    · exact .inl (run.2 c digit)

theorem natural?_eq_some_iff {n : Nat} :
    natural? text = some n ↔ IsDigits text ∧ Nat.ofDigitChars 10 text 0 = n := by
  have value : digitsValue 0 text = Nat.ofDigitChars 10 text 0 := by
    rw [digitsValue, Nat.ofDigitChars_eq_foldl]
  unfold natural?
  rw [value]
  by_cases run : IsDigits text
  · have known : (!text.isEmpty && text.all Char.isDigit) = true := by
      rw [Bool.and_eq_true, Bool.not_eq_true', List.isEmpty_eq_false_iff, List.all_eq_true]
      exact run
    rw [if_pos known, Option.some.injEq, and_iff_right run]
  · have unknown : ¬ (!text.isEmpty && text.all Char.isDigit) = true := by
      rw [Bool.and_eq_true, Bool.not_eq_true', List.isEmpty_eq_false_iff, List.all_eq_true]
      exact run
    rw [if_neg unknown]
    simp [run]

/-- Exactly the literals are read, each as the integer that it spells. -/
theorem integer?_eq_some_iff {value : Int} : integer? text = some value ↔ Literal text value := by
  constructor
  · intro read
    unfold integer? at read
    split at read
    all_goals
      simp only [Option.map_eq_some_iff, Option.bind_eq_bind, Option.bind_eq_some_iff,
        Option.pure_def, Option.some.injEq] at read
      obtain ⟨_, ⟨n, digits, rfl⟩, rfl⟩ := read
      obtain ⟨run, rfl⟩ := natural?_eq_some_iff.mp digits
    · exact .minus run
    · exact .plus run
    · exact .unsigned run
  · intro literal
    cases literal with
    | unsigned run =>
      have digits := natural?_eq_some_iff.mpr ⟨run, rfl⟩
      unfold integer?
      split
      · exact absurd (run.2 '-' List.mem_cons_self) (by decide)
      · exact absurd (run.2 '+' List.mem_cons_self) (by decide)
      · rw [digits]
        rfl
    | plus run =>
      rw [integer?, natural?_eq_some_iff.mpr ⟨run, rfl⟩]
      rfl
    | minus run =>
      rw [integer?, natural?_eq_some_iff.mpr ⟨run, rfl⟩]
      rfl

/-- Exactly the literals of 32-bit integers are read. -/
theorem int32?_eq_some_iff {value : Int32} :
    int32? text = some value ↔ Literal text value.toInt := by
  rw [← integer?_eq_some_iff, int32?, Option.bind_eq_some_iff]
  constructor
  · rintro ⟨integer, read, narrowed⟩
    rw [read, narrow?_eq_some_iff.mp narrowed]
  · intro read
    exact ⟨value.toInt, read, narrow?_eq_some_iff.mpr rfl⟩

theorem literal_toDigits (n : Nat) : Literal (Nat.toDigits 10 n) (n : Int) := by
  have literal := Literal.unsigned (isDigits_toDigits n)
  rwa [Nat.ofDigitChars_ten_toDigits] at literal

theorem digitChar_of_isDigit (digit : c.isDigit = true) :
    (c.toNat - '0'.toNat).digitChar = c ∧ c.toNat - '0'.toNat < 10 := by
  simp only [Char.isDigit, Bool.and_eq_true, decide_eq_true_eq, ge_iff_le, UInt32.le_iff_toNat_le]
    at digit
  have low : 48 ≤ c.toNat := digit.1
  have high : c.toNat ≤ 57 := digit.2
  have self : Char.ofNat c.toNat = c := Char.ofNat_toNat c
  generalize c.toNat = code at low high self
  subst self
  interval_cases code <;> decide

/-- Digits that do not begin with a zero are the digits of their value. -/
theorem toDigits_ofDigitChars {digits : List Char} (run : IsDigits digits)
    (noZero : digits.head? ≠ some '0') :
    Nat.toDigits 10 (Nat.ofDigitChars 10 digits 0) = digits ∧ 0 < Nat.ofDigitChars 10 digits 0 := by
  obtain ⟨nonempty, allDigits⟩ := run
  -- Digits are printed from the back, so the induction takes off the last one.
  induction digits using List.reverseRecOn with
  | nil => exact absurd rfl nonempty
  | append_singleton before last ih =>
    obtain ⟨isLast, small⟩ := digitChar_of_isDigit
      (allDigits last (List.mem_append_right before List.mem_cons_self))
    have single : Nat.toDigits 10 (last.toNat - '0'.toNat) = [last] := by
      rw [Nat.toDigits_of_lt_base small, isLast]
    rw [Nat.ofDigitChars_append, Nat.ofDigitChars_cons, Nat.ofDigitChars_nil]
    cases before with
    | nil =>
      rw [Nat.ofDigitChars_nil, Nat.mul_zero, Nat.zero_add, List.nil_append]
      refine ⟨single, Nat.pos_of_ne_zero fun zero => ?_⟩
      rw [zero] at isLast
      rw [List.nil_append, ← isLast] at noZero
      exact noZero rfl
    | cons first others =>
      obtain ⟨printed, positive⟩ := ih noZero (List.cons_ne_nil first others)
        fun c member => allDigits c (List.mem_append_left [last] member)
      refine ⟨?_, by omega⟩
      rw [← Nat.toDigits_append_toDigits (by decide) positive small, printed, single]

/-- What is printed for an integer is a literal of it. -/
theorem literal_toString (value : Int) : Literal (toString value).toList value := by
  rw [toList_toString]
  split
  · rename_i nonneg
    have literal := literal_toDigits value.toNat
    rwa [Int.toNat_of_nonneg nonneg] at literal
  · rename_i negative
    have literal := Literal.minus (isDigits_toDigits (-value).toNat)
    rwa [Nat.ofDigitChars_ten_toDigits, Int.toNat_of_nonneg (by omega), Int.neg_neg] at literal

end Xiangqi.Text
