/-!
# Numerals

Reading of integers written with ASCII digits. Leading zeros are allowed and do not change the
value. A signed numeral may carry one `+` or `-` directly before its digits, and its value has to
fit into 32 bits. Hexadecimal digits, of either case, are read one at a time; they give the code
points of characters.
-/

namespace Xiangqi.Text

/-- The value of a hexadecimal digit. -/
def hexDigit? (c : Char) : Option Nat :=
  if '0' ≤ c ∧ c ≤ '9' then some (c.toNat - '0'.toNat)
  else if 'a' ≤ c ∧ c ≤ 'f' then some (c.toNat - 'a'.toNat + 10)
  else if 'A' ≤ c ∧ c ≤ 'F' then some (c.toNat - 'A'.toNat + 10)
  else none

/-- The character with the given code point; surrogates and numbers beyond Unicode have none. -/
def scalar? (code : Nat) : Option Char :=
  if code.isValidChar then some (Char.ofNat code) else none

/-- The value of a run of decimal digits, continuing from the digits read so far. -/
def digitsValue (sofar : Nat) (digits : List Char) : Nat :=
  digits.foldl (fun value digit => 10 * value + (digit.toNat - '0'.toNat)) sofar

/-- The value of an unsigned numeral: one or more ASCII digits and nothing else. -/
def natural? (text : List Char) : Option Nat :=
  if !text.isEmpty && text.all Char.isDigit then some (digitsValue 0 text) else none

/-- The value of a numeral with an optional sign. -/
def integer? : List Char → Option Int
  | '-' :: digits => (natural? digits).map fun value => -(value : Int)
  | '+' :: digits => (natural? digits).map fun value => (value : Int)
  | digits => (natural? digits).map fun value => (value : Int)

/-- The 32-bit integer with the given value, if there is one. -/
def narrow? (value : Int) : Option Int32 :=
  if -2147483648 ≤ value ∧ value ≤ 2147483647 then some (Int32.ofInt value) else none

/-- The value of a signed numeral that fits into 32 bits. -/
def int32? (text : List Char) : Option Int32 :=
  (integer? text).bind narrow?

/-- A value is kept by narrowing, and nothing outside of 32 bits is let through. -/
theorem narrow?_eq_some_iff {value : Int} {narrowed : Int32} :
    narrow? value = some narrowed ↔ value = narrowed.toInt := by
  unfold narrow?
  split
  · rename_i inRange
    rw [Option.some.injEq]
    constructor
    · rintro rfl
      rw [Int32.toInt_ofInt_of_le (by omega) (by omega)]
    · rintro rfl
      exact Int32.ofInt_toInt narrowed
  · rename_i outside
    simp only [reduceCtorEq, false_iff]
    rintro rfl
    have low := Int32.le_toInt narrowed
    have high := Int32.toInt_lt narrowed
    omega

end Xiangqi.Text
