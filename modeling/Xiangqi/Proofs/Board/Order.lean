import Mathlib.Data.List.FinRange
import Xiangqi.Proofs.Board.Generals

/-!
# Board order

Squares are gone through row by row, and each row from its first column; moves are ordered by their
sources and, where these agree, by their targets. The list of all squares is strictly increasing in
this order, and so is every list that a search takes from it: on a board with all pieces in place an
army lists its pieces by the squares they stand on.
-/

namespace Xiangqi

namespace Square

variable {a b c : Square}

/-- The square `a` comes before `b` in board order. -/
def Before (a b : Square) : Prop :=
  a.row < b.row ∨ (a.row = b.row ∧ a.col < b.col)

instance (a b : Square) : Decidable (Before a b) :=
  inferInstanceAs (Decidable (_ ∨ _))

theorem Before.ne (before : a.Before b) : a ≠ b := by
  intro same
  subst same
  simp [Before] at before

theorem pairwise_all : all.Pairwise Before := by
  unfold all
  apply List.pairwise_flatMap.mpr
  constructor
  · intro row _
    apply List.pairwise_map.mpr
    apply (List.pairwise_lt_finRange 9).imp
    intro first second earlier
    exact .inr ⟨rfl, earlier⟩
  · apply (List.pairwise_lt_finRange 10).imp
    intro first second earlier a memberA b memberB
    simp only [List.mem_map] at memberA memberB
    obtain ⟨_, _, sameA⟩ := memberA
    obtain ⟨_, _, sameB⟩ := memberB
    subst sameA sameB
    exact .inl earlier

theorem Before.asymm (before : a.Before b) : ¬ b.Before a := by
  unfold Before at before ⊢
  omega

theorem before_or_before_of_ne (different : a ≠ b) : a.Before b ∨ b.Before a := by
  unfold Before
  by_cases rows : a.row = b.row
  · have cols : a.col ≠ b.col := fun same => different (ext rows same)
    omega
  · omega

/-- A search through all squares finds the first one in board order that passes the test. -/
theorem find?_all_eq_some_iff {test : Square → Bool} :
    all.find? test = some a ↔ test a = true ∧ ∀ b, b.Before a → test b = false := by
  have first {hit : Square} (found : all.find? test = some hit) :
      ∀ b, b.Before hit → test b = false := by
    intro b earlier
    obtain ⟨-, before, after, split, failed⟩ := List.find?_eq_some_iff_append.mp found
    have ordered := pairwise_all
    have member := mem_all b
    rw [split, List.pairwise_append, List.pairwise_cons] at ordered
    rw [split, List.mem_append, List.mem_cons] at member
    obtain ⟨-, ⟨later, -⟩, -⟩ := ordered
    rcases member with inBefore | here | inAfter
    · simpa using failed b inBefore
    · exact absurd here earlier.ne
    · exact absurd earlier (later b inAfter).asymm
  constructor
  · intro found
    exact ⟨List.find?_some found, first found⟩
  · intro passes
    cases found : all.find? test with
    | none => exact absurd passes.1 (List.find?_eq_none.mp found a (mem_all a))
    | some b =>
      by_cases same : b = a
      · rw [same]
      · cases before_or_before_of_ne same with
        | inl earlier =>
          have hit := List.find?_some found
          rw [passes.2 b earlier] at hit
          cases hit
        | inr earlier =>
          have missed := first found a earlier
          rw [passes.1] at missed
          cases missed

end Square

namespace Move

variable {a b : Move}

/-- The move `a` comes before `b` in board order: by the source first, then by the target. -/
def Before (a b : Move) : Prop :=
  a.source.Before b.source ∨ (a.source = b.source ∧ a.target.Before b.target)

instance (a b : Move) : Decidable (Before a b) :=
  inferInstanceAs (Decidable (_ ∨ _))

theorem Before.ne (before : a.Before b) : a ≠ b := by
  intro same
  subst same
  cases before with
  | inl sources => exact sources.ne rfl
  | inr targets => exact targets.2.ne rfl

/-- Moves listed source by source, with the targets of each in board order, are in board order. -/
theorem pairwise_flatMap {α : Type} {items : List α} {source : α → Square}
    {targets : α → List Square} (sources : (items.map source).Pairwise Square.Before)
    (ordered : ∀ item ∈ items, (targets item).Pairwise Square.Before) :
    (items.flatMap fun item => (targets item).map (Move.mk (source item))).Pairwise Before := by
  apply List.pairwise_flatMap.mpr
  constructor
  · intro item member
    apply List.pairwise_map.mpr
    apply (ordered item member).imp
    intro first second earlier
    exact .inr ⟨rfl, earlier⟩
  · apply (List.pairwise_map.mp sources).imp
    intro first second earlier a memberA b memberB
    simp only [List.mem_map] at memberA memberB
    obtain ⟨_, _, sameA⟩ := memberA
    obtain ⟨_, _, sameB⟩ := memberB
    subst sameA sameB
    exact .inl earlier

end Move

namespace Board

variable {board : Board}

/-- The pieces of a board are listed by the squares they stand on. -/
theorem InPlace.pairwise_pieces (inPlace : board.InPlace) :
    (board.pieces.map Piece.position).Pairwise Square.Before := by
  apply List.pairwise_map.mpr
  apply List.pairwise_filterMap.mpr
  apply Square.pairwise_all.imp
  intro a b earlier first standsFirst second standsSecond
  rw [inPlace a first standsFirst, inPlace b second standsSecond]
  exact earlier

theorem InPlace.pairwise_army (inPlace : board.InPlace) (side : Side) :
    ((board.army side).map Piece.position).Pairwise Square.Before := by
  apply List.pairwise_map.mpr
  apply List.Pairwise.filter
  exact List.pairwise_map.mp inPlace.pairwise_pieces

end Board

end Xiangqi
