import Mathlib.Data.List.DropRight
import Mathlib.Data.List.TakeWhile
import Xiangqi.Proofs.Text.Words

/-!
# Texts without their ends

White space and parentheses are taken off a text from both ends. What is taken off is a run of such
characters (`exists_dropWhile`, `exists_rdropWhile`), and what begins and ends with another character
stays whole (`dropWhile_append_kept`, `rdropWhile_append_kept`).
-/

namespace Xiangqi.Text

/-- The text is white space and nothing else; it may be empty. -/
def Blank (text : List Char) : Prop :=
  ∀ c ∈ text, isBlank c = true

instance (text : List Char) : Decidable (Blank text) :=
  List.decidableBAll _ text

variable {p : Char → Bool} {text word before after first last : List Char} {c : Char}

theorem trim_eq (text : List Char) : trim text = (text.dropWhile isBlank).rdropWhile isBlank := rfl

theorem blank_nil : Blank [] :=
  fun _ member => absurd member List.not_mem_nil

theorem blank_append_iff : Blank (first ++ last) ↔ Blank first ∧ Blank last :=
  List.forall_mem_append

theorem Blank.reverse (blank : Blank text) : Blank text.reverse :=
  fun c member => blank c (List.mem_reverse.mp member)

theorem exists_dropWhile (p : Char → Bool) (text : List Char) :
    ∃ before, text = before ++ text.dropWhile p ∧ ∀ c ∈ before, p c = true :=
  ⟨text.takeWhile p, List.takeWhile_append_dropWhile.symm, fun _ => List.mem_takeWhile_imp⟩

theorem exists_rdropWhile (p : Char → Bool) (text : List Char) :
    ∃ after, text = text.rdropWhile p ++ after ∧ ∀ c ∈ after, p c = true :=
  ⟨text.rtakeWhile p, List.rdropWhile_append_rtakeWhile.symm,
    fun _ => List.mem_rtakeWhile_imp⟩

/-- Whatever is trimmed off is white space. -/
theorem exists_trim (text : List Char) :
    ∃ before after, text = before ++ (trim text ++ after) ∧ Blank before ∧ Blank after := by
  obtain ⟨before, front, blankBefore⟩ := exists_dropWhile isBlank text
  obtain ⟨after, back, blankAfter⟩ := exists_rdropWhile isBlank (text.dropWhile isBlank)
  exact ⟨before, after, by rw [trim_eq, ← back, ← front], blankBefore, blankAfter⟩

/-- Dropping from the front does not get past a character that stays. -/
theorem dropWhile_append_kept (before after : List Char) (nonempty : word ≠ [])
    (kept : ∀ c ∈ word, p c = false) :
    (before ++ (word ++ after)).dropWhile p = before.dropWhile p ++ (word ++ after) := by
  obtain ⟨c, rest, rfl⟩ := List.exists_cons_of_ne_nil nonempty
  have stays : ¬ p c = true := by simp [kept c List.mem_cons_self]
  rw [List.dropWhile_append, List.cons_append, List.dropWhile_cons_of_neg stays]
  split
  · rename_i gone
    rw [List.isEmpty_iff.mp gone, List.nil_append]
  · rfl

/-- Dropping from the back does not get past a character that stays. -/
theorem rdropWhile_append_kept (before after : List Char) (nonempty : word ≠ [])
    (kept : ∀ c ∈ word, p c = false) :
    (before ++ (word ++ after)).rdropWhile p = before ++ (word ++ after.rdropWhile p) := by
  have backward := dropWhile_append_kept (p := p) after.reverse before.reverse
    (List.reverse_ne_nil_iff.mpr nonempty) fun c member => kept c (List.mem_reverse.mp member)
  simp only [List.rdropWhile, List.reverse_append, List.append_assoc, backward,
    List.reverse_reverse]

/-- White space around a word is trimmed off, and nothing else. -/
theorem trim_around (isWord : IsWord word) (blankBefore : Blank before) (blankAfter : Blank after) :
    trim (before ++ (word ++ after)) = word := by
  rw [trim_eq, dropWhile_append_kept before after isWord.nonempty isWord.solid,
    List.dropWhile_eq_nil_iff.mpr blankBefore,
    rdropWhile_append_kept [] after isWord.nonempty isWord.solid,
    List.rdropWhile_eq_nil_iff.mpr blankAfter, List.nil_append, List.append_nil]

/-- Of white space around a run of a solid character, at most the inner part is left when the outer
part and the run are taken off. -/
theorem blank_dropWhile_run (solid : isBlank c = false) (blankFirst : Blank first)
    (blankLast : Blank last) (n : Nat) :
    Blank (((first ++ (List.replicate n c ++ last)).dropWhile isBlank).dropWhile (· == c)) := by
  have inner : Blank (last.dropWhile (· == c)) :=
    fun d member => blankLast d ((List.dropWhile_sublist _).subset member)
  cases n with
  | zero =>
    rw [List.replicate_zero, List.nil_append,
      List.dropWhile_eq_nil_iff.mpr (blank_append_iff.mpr ⟨blankFirst, blankLast⟩)]
    exact blank_nil
  | succ n =>
    have run : ∀ d ∈ List.replicate (n + 1) c, (d == c) = true := by
      intro d member
      rw [List.eq_of_mem_replicate member, beq_self_eq_true]
    have stays : ∀ d ∈ List.replicate (n + 1) c, isBlank d = false := by
      intro d member
      rw [List.eq_of_mem_replicate member, solid]
    rw [dropWhile_append_kept first last (by simp) stays,
      List.dropWhile_eq_nil_iff.mpr blankFirst, List.nil_append, List.dropWhile_append_of_pos run]
    exact inner

theorem blank_rdropWhile_run (solid : isBlank c = false) (blankFirst : Blank first)
    (blankLast : Blank last) (n : Nat) :
    Blank (((first ++ (List.replicate n c ++ last)).rdropWhile isBlank).rdropWhile (· == c)) := by
  have backward := blank_dropWhile_run solid blankLast.reverse blankFirst.reverse n
  simp only [List.rdropWhile, List.reverse_append, List.reverse_replicate, List.append_assoc,
    List.reverse_reverse]
  exact backward.reverse

end Xiangqi.Text
