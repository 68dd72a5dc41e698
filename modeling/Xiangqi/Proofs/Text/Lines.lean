import Mathlib.Data.List.Induction
import Xiangqi.Proofs.Text.Decimal
import Xiangqi.Proofs.Text.Words

/-!
# Texts of one line

A text that holds no line feed stays within one line. Written one after the other, each with a line
feed behind it, such texts give as many lines as there are texts.
-/

namespace Xiangqi.Text

/-- No line ends inside the text. -/
def Unbroken (text : String) : Prop :=
  '\n' ∉ text.toList

instance (text : String) : Decidable (Unbroken text) :=
  inferInstanceAs (Decidable (¬ _))

/-- The text up to its first line feed. -/
def firstLine (text : String) : String :=
  String.ofList (text.toList.takeWhile (· ≠ '\n'))

@[simp] theorem unbroken_append_iff {first second : String} :
    Unbroken (first ++ second) ↔ Unbroken first ∧ Unbroken second := by
  simp only [Unbroken, String.toList_append, List.mem_append, not_or]

@[simp] theorem unbroken_toString {text : String} : Unbroken (toString text) ↔ Unbroken text :=
  Iff.rfl

theorem unbroken_ofList_iff {text : List Char} : Unbroken (String.ofList text) ↔ '\n' ∉ text := by
  rw [Unbroken, String.toList_ofList]

theorem lineFeed_not_mem_toDigits (n : Nat) : '\n' ∉ Nat.toDigits 10 n := by
  intro broken
  exact absurd (isDigit_of_mem_toDigits broken) (by decide)

@[simp] theorem unbroken_toString_nat (n : Nat) : Unbroken (toString n) := by
  rw [Unbroken, toList_toString_nat]
  exact lineFeed_not_mem_toDigits n

@[simp] theorem unbroken_toString_int (value : Int) : Unbroken (toString value) := by
  rw [Unbroken, toList_toString]
  split
  · exact lineFeed_not_mem_toDigits _
  · rw [List.mem_cons, not_or]
    exact ⟨by decide, lineFeed_not_mem_toDigits _⟩

theorem isBlank_digitChar (n : Nat) : isBlank n.digitChar = false := by
  rcases Nat.lt_or_ge n 16 with small | large
  · have digits : ∀ digit : Fin 16, isBlank digit.val.digitChar = false := by decide
    exact digits ⟨n, small⟩
  · have star : n.digitChar = '*' := by
      simp only [Nat.digitChar]
      repeat rw [if_neg (by omega)]
    rw [star]
    decide

theorem ne_lineFeed_of_solid {c : Char} (solid : isBlank c = false) : c ≠ '\n' := by
  rintro rfl
  exact absurd solid (by decide)

theorem IsWord.unbroken {word : String} (isWord : IsWord word.toList) : Unbroken word :=
  fun broken => ne_lineFeed_of_solid (isWord.solid _ broken) rfl

/-- Words of a line hold no line feed, wherever the line itself has them. -/
theorem unbroken_of_mem_words {text word : List Char} (member : word ∈ words text) :
    Unbroken (String.ofList word) := by
  rw [unbroken_ofList_iff]
  intro broken
  have blank := isBlank_eq_false_of_mem_words member broken
  exact absurd blank (by decide)

variable {lines : List String}

theorem toList_join_lines (lines : List String) :
    (String.join (lines.map (· ++ "\n"))).toList =
      lines.flatMap fun line => line.toList ++ ['\n'] := by
  rw [String.toList_join, List.flatMap_map]
  simp only [String.toList_append]
  rfl

/-- Lines that were written out are read again from the text. -/
theorem lines_join_lines (unbroken : ∀ line ∈ lines, Unbroken line)
    (bare : ∀ line ∈ lines, line.toList.getLast? ≠ some '\r') :
    Text.lines (String.join (lines.map (· ++ "\n"))).toList = lines.map String.toList := by
  rw [toList_join_lines, ← List.flatMap_map String.toList (· ++ ['\n'])]
  apply lines_flatMap_lines
  · exact List.forall_mem_map.mpr unbroken
  · exact List.forall_mem_map.mpr bare

/-- The first of the lines that are written out is read off the text. -/
theorem firstLine_join_lines {line : String} (unbroken : Unbroken line) (rest : List String) :
    firstLine (String.join ((line :: rest).map (· ++ "\n"))) = line := by
  have whole : ∀ c ∈ line.toList, decide (c ≠ '\n') = true := by
    intro c member
    rw [decide_eq_true_iff]
    rintro rfl
    exact unbroken member
  rw [firstLine, toList_join_lines, List.flatMap_cons, List.append_assoc,
    List.takeWhile_append_of_pos whole]
  simp

/-- Lines that are written out have as many line feeds as there are lines. -/
theorem count_lineFeed_join (unbroken : ∀ line ∈ lines, Unbroken line) :
    (String.join (lines.map (· ++ "\n"))).toList.count '\n' = lines.length := by
  rw [toList_join_lines]
  induction lines with
  | nil => rfl
  | cons line rest ih =>
    have here : line.toList.count '\n' = 0 :=
      List.count_eq_zero.mpr (unbroken line List.mem_cons_self)
    have others := ih fun other member => unbroken other (List.mem_cons_of_mem line member)
    rw [List.flatMap_cons, List.count_append, List.count_append, others, here, List.length_cons,
      List.count_singleton_self]
    omega

/-- Lines that are written out are no text at all or end with a line feed. -/
theorem getLast?_join_lines (lines : List String) :
    lines = [] ∨ (String.join (lines.map (· ++ "\n"))).toList.getLast? = some '\n' := by
  cases lines using List.reverseRecOn with
  | nil => exact .inl rfl
  | append_singleton earlier line =>
    rw [toList_join_lines, List.flatMap_append, List.flatMap_singleton, ← List.append_assoc,
      List.getLast?_concat]
    exact .inr rfl

end Xiangqi.Text
