import Mathlib.Data.List.Nodup
import Xiangqi.Board.Setup

/-!
# Pieces in place and sole generals

Everything above the board trusts two facts about it: each piece knows where it stands, and each
side has one general. `Board.InPlace` and `Board.SoleGeneral` say so square by square. Here the
counting and searching functions of the board are read in these terms: counting one general means
that some square is the only one with a general, the search finds that square, and the audit of a
board accepts exactly the boards with both properties.
-/

namespace Xiangqi.Board

/-- Every piece knows where it stands. -/
def InPlace (board : Board) : Prop :=
  ∀ sq piece, board.pieceOn sq = some piece → piece.position = sq

/-- A general of the side stands on the square. -/
def holdsGeneral (board : Board) (side : Side) (sq : Square) : Bool :=
  (board.pieceOn sq).any fun piece => piece.side == side && piece.isGeneral

/-- The side has one general, and it stands on the given square. -/
def SoleGeneral (board : Board) (side : Side) (home : Square) : Prop :=
  ∀ sq, board.holdsGeneral side sq = true ↔ sq = home

/-- A board on which a game can be played: what the audit of a board checks. -/
structure WellFormed (board : Board) : Prop where
  inPlace : board.InPlace
  oneGeneral : ∀ side, board.generalCount side = 1

theorem holdsGeneral_eq_true_iff {board : Board} {side : Side} {sq : Square} :
    board.holdsGeneral side sq = true ↔
      ∃ piece, board.pieceOn sq = some piece ∧ piece.side = side ∧ piece.kind = .general := by
  simp only [holdsGeneral, Option.any_eq_true, Bool.and_eq_true, beq_iff_eq, Piece.isGeneral]

theorem InPlace.pieceOn_position {board : Board} (inPlace : board.InPlace) {sq : Square}
    {piece : Piece} (stands : board.pieceOn sq = some piece) :
    board.pieceOn piece.position = some piece := by
  rw [inPlace sq piece stands]
  exact stands

/-- On a board with all pieces in place, an army's pieces are read off the squares they name. -/
theorem InPlace.mem_army_iff {board : Board} (inPlace : board.InPlace) {side : Side}
    {piece : Piece} :
    piece ∈ board.army side ↔ board.pieceOn piece.position = some piece ∧ piece.side = side := by
  rw [mem_army]
  constructor
  · rintro ⟨⟨sq, stands⟩, owned⟩
    exact ⟨inPlace.pieceOn_position stands, owned⟩
  · rintro ⟨stands, owned⟩
    exact ⟨⟨piece.position, stands⟩, owned⟩

theorem generalCount_eq (board : Board) (side : Side) :
    board.generalCount side = Square.all.countP (board.holdsGeneral side) := by
  rw [generalCount, army, pieces, List.countP_filter, List.countP_filterMap]
  congr 1
  funext sq
  unfold holdsGeneral
  cases board.pieceOn sq with
  | none => rfl
  | some piece => simp [Bool.and_comm]

/-- The search for a general goes through the squares in board order. -/
theorem InPlace.generalSquare? {board : Board} (inPlace : board.InPlace) (side : Side) :
    board.generalSquare? side = Square.all.find? (board.holdsGeneral side) := by
  have sameTest : (fun sq => (board.pieceOn sq).any fun piece =>
      decide ((piece.side == side) = true ∧ piece.isGeneral = true)) =
        board.holdsGeneral side := by
    simp only [Bool.decide_and, Bool.decide_eq_true]
    rfl
  rw [Board.generalSquare?, army, pieces, List.find?_filter, List.find?_filterMap, sameTest]
  cases found : Square.all.find? (board.holdsGeneral side) with
  | none => rfl
  | some sq =>
    obtain ⟨piece, stands, -, -⟩ := holdsGeneral_eq_true_iff.mp (List.find?_some found)
    simp [stands, inPlace sq piece stands]

/-- One square passes a test exactly if some square is the only one that does. -/
theorem countP_all_eq_one_iff {test : Square → Bool} :
    Square.all.countP test = 1 ↔ ∃ sq, ∀ other, test other = true ↔ other = sq := by
  rw [List.countP_eq_length_filter, List.length_eq_one_iff]
  constructor
  · rintro ⟨sq, only⟩
    refine ⟨sq, fun other => ?_⟩
    rw [← List.mem_singleton (a := other), ← only, List.mem_filter]
    exact ⟨fun passes => ⟨Square.mem_all other, passes⟩, fun member => member.2⟩
  · rintro ⟨sq, sole⟩
    refine ⟨sq, ?_⟩
    have distinct : (Square.all.filter test).Nodup := Square.nodup_all.filter _
    apply List.Perm.eq_singleton
    rw [List.perm_ext_iff_of_nodup distinct (List.nodup_singleton sq)]
    intro other
    rw [List.mem_filter, sole other, List.mem_singleton]
    exact ⟨fun member => member.2, fun same => ⟨Square.mem_all other, same⟩⟩

/-- A side with a sole general counts one, and the other way round. -/
theorem generalCount_eq_one_iff {board : Board} {side : Side} :
    board.generalCount side = 1 ↔ ∃ home, board.SoleGeneral side home := by
  rw [generalCount_eq]
  exact countP_all_eq_one_iff

theorem WellFormed.exists_soleGeneral {board : Board} (wellFormed : board.WellFormed)
    (side : Side) : ∃ home, board.SoleGeneral side home :=
  generalCount_eq_one_iff.mp (wellFormed.oneGeneral side)

theorem SoleGeneral.generalSquare? {board : Board} {side : Side} {home : Square}
    (sole : board.SoleGeneral side home) (inPlace : board.InPlace) :
    board.generalSquare? side = some home := by
  rw [inPlace.generalSquare?]
  cases found : Square.all.find? (board.holdsGeneral side) with
  | none =>
    have absent := List.find?_eq_none.mp found home (Square.mem_all home)
    exact absurd ((sole home).mpr rfl) absent
  | some sq => rw [(sole sq).mp (List.find?_some found)]

theorem misplaced?_eq_none_iff {board : Board} {slot : Square} :
    board.misplaced? slot = none ↔ ∀ piece, board.pieceOn slot = some piece →
      piece.position = slot := by
  unfold misplaced?
  cases board.pieceOn slot with
  | none => simp
  | some piece => by_cases placed : piece.position = slot <;> simp [placed]

theorem findMiscounted_eq_none_iff {board : Board} :
    (Side.all.find? fun side => board.generalCount side != 1) = none ↔
      ∀ side, board.generalCount side = 1 := by
  rw [List.find?_eq_none]
  constructor
  · intro counted side
    simpa using counted side (Side.mem_all side)
  · intro counted side _
    simp [counted side]

/-- The audit accepts exactly the well-formed boards. -/
theorem audit_eq_ok_iff {board : Board} : board.audit = .ok () ↔ board.WellFormed := by
  have placed : Square.all.findSome? board.misplaced? = none ↔ board.InPlace := by
    rw [List.findSome?_eq_none_iff]
    constructor
    · intro none sq piece stands
      exact misplaced?_eq_none_iff.mp (none sq (Square.mem_all sq)) piece stands
    · intro inPlace sq _
      exact misplaced?_eq_none_iff.mpr fun piece stands => inPlace sq piece stands
  constructor
  · intro passed
    unfold audit at passed
    split at passed
    · cases passed
    · rename_i noneMisplaced
      split at passed
      · cases passed
      · rename_i noneMiscounted
        exact ⟨placed.mp noneMisplaced, findMiscounted_eq_none_iff.mp noneMiscounted⟩
  · intro wellFormed
    simp only [audit, placed.mpr wellFormed.inPlace,
      findMiscounted_eq_none_iff.mpr wellFormed.oneGeneral]

/-- The check of generals at set-up accepts exactly the boards with one general for each side. -/
theorem checkGenerals_eq_ok_iff {board : Board} :
    board.checkGenerals = .ok () ↔ ∀ side, board.generalCount side = 1 := by
  rw [← findMiscounted_eq_none_iff]
  unfold checkGenerals
  split
  · rename_i side miscounted
    rw [miscounted]
    split <;> simp
  · rename_i noneMiscounted
    simp [noneMiscounted]

end Xiangqi.Board
