import Xiangqi.Proofs.Board.Built
import Xiangqi.Proofs.Square.Reader

/-!
# The entries of a board

A board is described by one entry for each of its pieces. Entries that lie on different squares are
inserted without complaint, whatever their order, and each of them puts back the piece that it was
taken from. So a well-formed board is set up again from its own entries.
-/

namespace Xiangqi

open Fallible

/-- The entry that describes a piece. -/
def Piece.entry (piece : Piece) : Entry :=
  ⟨piece.kind, piece.side, Int32.ofNat piece.position.row.val, Int32.ofNat piece.position.col.val⟩

theorem Piece.locate_entry (piece : Piece) :
    Square.locate piece.entry.row piece.entry.col = .ok piece.position := by
  rw [Square.locate_eq_ok_iff]
  have row := piece.position.row.isLt
  have col := piece.position.col.isLt
  exact ⟨Int32.toInt_ofNat_of_lt (by omega), Int32.toInt_ofNat_of_lt (by omega)⟩

namespace Board

/-- The entries of all pieces, in board order. -/
def entries (board : Board) : Placement :=
  board.pieces.map Piece.entry

theorem insertEntry_entry {board : Board} {piece : Piece}
    (free : board.pieceOn piece.position = none) :
    board.insertEntry piece.entry = .ok (board.put piece.position (some piece)) := by
  have vacant : board.isOccupied piece.position = false := by
    rw [isOccupied, free, Option.isSome_none]
  rw [insertEntry, bind_eq_ok_iff]
  exact ⟨piece.position, piece.locate_entry, insert_of_free vacant piece.kind piece.side⟩

theorem pieceOn_put_position_iff {board : Board} {piece : Piece}
    (free : board.pieceOn piece.position = none) (sq : Square) (other : Piece) :
    (board.put piece.position (some piece)).pieceOn sq = some other ↔
      (other = piece ∧ other.position = sq) ∨ board.pieceOn sq = some other := by
  rw [pieceOn_put]
  by_cases here : sq = piece.position
  · rw [if_pos here, here, free, Option.some.injEq]
    constructor
    · rintro rfl
      exact .inl ⟨rfl, rfl⟩
    · rintro (⟨rfl, -⟩ | impossible)
      · rfl
      · cases impossible
  · rw [if_neg here]
    constructor
    · exact .inr
    · rintro (⟨rfl, position⟩ | stands)
      · exact absurd position.symm here
      · exact stands

/-- The entries of pieces on different free squares are all inserted, and then the board holds these
pieces besides its own. -/
theorem exists_insertEntries {pieces : List Piece} {board : Board}
    (apart : (pieces.map Piece.position).Nodup)
    (free : ∀ piece ∈ pieces, board.pieceOn piece.position = none) :
    ∃ filled, (pieces.map Piece.entry).foldlM insertEntry board = .ok filled ∧
      filled.rules = board.rules ∧ ∀ sq piece, filled.pieceOn sq = some piece ↔
        (piece ∈ pieces ∧ piece.position = sq) ∨ board.pieceOn sq = some piece := by
  induction pieces generalizing board with
  | nil => exact ⟨board, rfl, rfl, by simp⟩
  | cons first rest ih =>
    rw [List.map_cons, List.nodup_cons] at apart
    obtain ⟨fresh, others⟩ := apart
    have vacant := free first List.mem_cons_self
    have stillFree : ∀ piece ∈ rest,
        (board.put first.position (some first)).pieceOn piece.position = none := by
      intro piece member
      have elsewhere : piece.position ≠ first.position := by
        intro same
        exact fresh (same ▸ List.mem_map_of_mem member)
      rw [pieceOn_put, if_neg elsewhere]
      exact free piece (List.mem_cons_of_mem first member)
    obtain ⟨filled, filledIn, sameRules, holds⟩ := ih others stillFree
    refine ⟨filled, ?_, sameRules, ?_⟩
    · rw [List.map_cons, List.foldlM_cons, insertEntry_entry vacant]
      exact filledIn
    · intro sq piece
      rw [holds, pieceOn_put_position_iff vacant, List.mem_cons, or_and_right, or_assoc,
        or_left_comm]

/-- Pieces that know where they stand stand on the occupied squares, each on its own. -/
theorem InPlace.nodup_positions {board : Board} (inPlace : board.InPlace) :
    (board.pieces.map Piece.position).Nodup := by
  have positions : board.pieces.map Piece.position = Square.all.filter board.isOccupied := by
    rw [pieces, List.map_filterMap, ← List.filterMap_eq_filter]
    congr 1
    funext sq
    cases stands : board.pieceOn sq with
    | none => simp [isOccupied, stands, Option.guard]
    | some piece => simp [isOccupied, stands, Option.guard, inPlace sq piece stands]
  rw [positions]
  exact Square.nodup_all.filter _

/-- A well-formed board is set up again from its own entries. -/
theorem WellFormed.ofPlacement_entries {board : Board} (wellFormed : board.WellFormed) :
    ofPlacement board.entries board.rules = .ok board := by
  have inPlace := wellFormed.inPlace
  obtain ⟨filled, filledIn, sameRules, holds⟩ :=
    exists_insertEntries inPlace.nodup_positions fun piece _ =>
      pieceOn_empty board.rules piece.position
  have same : filled = board := by
    refine ext_pieceOn sameRules fun sq => Option.ext fun piece => ?_
    rw [holds, pieceOn_empty, mem_pieces]
    constructor
    · rintro (⟨⟨slot, stands⟩, position⟩ | impossible)
      · rw [← position, inPlace slot piece stands]
        exact stands
      · cases impossible
    · intro stands
      exact .inl ⟨⟨sq, stands⟩, inPlace sq piece stands⟩
  rw [same] at filledIn
  rw [ofPlacement, entries, filledIn]
  have checked := checkGenerals_eq_ok_iff.mpr wellFormed.oneGeneral
  simp only [bind, Except.bind, checked]
  rfl

end Board

end Xiangqi
