import Xiangqi.Proofs.Board.Carry
import Xiangqi.Proofs.Fallible

/-!
# Boards that can be built

`Board.Built` lists the operations that make or change a board. Each of them puts a piece only where
it says the piece stands, so every built board has its pieces in place, and the other way round every
board with its pieces in place can be built by inserting them one at a time.
-/

namespace Xiangqi.Board

open Fallible

/-- The boards that the operations on boards lead to. An operation that fails leaves its board as it
was, so only successes appear. -/
inductive Built : Board → Prop
  | empty (rules : Rules) : Built (Board.empty rules)
  | opening (rules : Rules) : Built (Board.opening rules)
  | ofPlacement {placement : Placement} {rules : Rules} {board : Board}
      (placed : Board.ofPlacement placement rules = .ok board) : Built board
  | insert {board next : Board} {kind : Kind} {side : Side} {sq : Square} (built : Built board)
      (inserted : board.insert kind side sq = .ok next) : Built next
  | transfer {board next : Board} {source target : Square} {captured : Option Piece}
      (built : Built board) (moved : board.transfer source target = .ok (captured, next)) :
      Built next
  | reset {board next : Board} {placement : Placement} (built : Built board)
      (placed : board.reset placement = .ok next) : Built next

theorem inPlace_empty (rules : Rules) : (empty rules).InPlace := by
  intro sq piece stands
  rw [pieceOn_empty] at stands
  cases stands

theorem InPlace.put {board : Board} (inPlace : board.InPlace) (kind : Kind) (side : Side)
    (sq : Square) : (board.put sq (some ⟨kind, side, sq⟩)).InPlace := by
  intro other piece stands
  rw [pieceOn_put] at stands
  by_cases same : other = sq
  · rw [if_pos same] at stands
    cases stands
    exact same.symm
  · rw [if_neg same] at stands
    exact inPlace other piece stands

theorem InPlace.insert {board next : Board} (inPlace : board.InPlace) {kind : Kind} {side : Side}
    {sq : Square} (inserted : board.insert kind side sq = .ok next) : next.InPlace := by
  unfold Board.insert at inserted
  split at inserted
  · cases inserted
  · cases inserted
    exact inPlace.put kind side sq

theorem InPlace.insertEntry {board next : Board} (inPlace : board.InPlace) {entry : Entry}
    (inserted : board.insertEntry entry = .ok next) : next.InPlace := by
  obtain ⟨sq, -, placed⟩ := bind_eq_ok_iff.mp inserted
  exact inPlace.insert placed

theorem InPlace.insertEntries {placement : Placement} {board next : Board}
    (inPlace : board.InPlace) (inserted : placement.foldlM Board.insertEntry board = .ok next) :
    next.InPlace := by
  induction placement generalizing board with
  | nil =>
    cases inserted
    exact inPlace
  | cons entry rest ih =>
    rw [List.foldlM_cons] at inserted
    obtain ⟨middle, first, others⟩ := bind_eq_ok_iff.mp inserted
    exact ih (inPlace.insertEntry first) others

/-- A placement that is accepted gives a well-formed board under the given rules. -/
theorem wellFormed_of_ofPlacement {placement : Placement} {rules : Rules} {board : Board}
    (placed : Board.ofPlacement placement rules = .ok board) : board.WellFormed := by
  obtain ⟨filled, inserted, rest⟩ := bind_eq_ok_iff.mp placed
  obtain ⟨_, checked, returned⟩ := bind_eq_ok_iff.mp rest
  cases returned
  exact ⟨(inPlace_empty rules).insertEntries inserted, checkGenerals_eq_ok_iff.mp checked⟩

theorem wellFormed_opening (rules : Rules) : (opening rules).WellFormed := by
  apply audit_eq_ok_iff.mp
  obtain ⟨legBlocking⟩ := rules
  cases legBlocking <;> decide +kernel

/-- Whatever the operations do, every piece on a board stands where it believes to stand. -/
theorem Built.inPlace {board : Board} (built : board.Built) : board.InPlace := by
  induction built with
  | empty rules => exact inPlace_empty rules
  | opening rules => exact (wellFormed_opening rules).inPlace
  | ofPlacement placed => exact (wellFormed_of_ofPlacement placed).inPlace
  | insert _ inserted ih => exact ih.insert inserted
  | @transfer board next source target captured _ moved ih =>
    cases stands : board.pieceOn source with
    | none =>
      rw [transfer_eq_error_iff.mpr ⟨stands, rfl⟩] at moved
      cases moved
    | some piece =>
      rw [transfer_of_pieceOn stands] at moved
      cases moved
      exact ih.carry source target
  | reset _ placed _ => exact (wellFormed_of_ofPlacement placed).inPlace

/-- The pieces of a board can be inserted on any list of squares, one after the other. -/
theorem exists_built_on {board : Board} (inPlace : board.InPlace) (squares : List Square) :
    ∃ copy : Board, copy.Built ∧ copy.rules = board.rules ∧ ∀ sq, copy.pieceOn sq =
      if sq ∈ squares then board.pieceOn sq else none := by
  induction squares with
  | nil => exact ⟨Board.empty board.rules, .empty board.rules, rfl, by simp⟩
  | cons first rest ih =>
    obtain ⟨copy, built, sameRules, agrees⟩ := ih
    by_cases settled : first ∈ rest ∨ board.pieceOn first = none
    · refine ⟨copy, built, sameRules, fun sq => ?_⟩
      rw [agrees sq]
      by_cases same : sq = first
      · rcases settled with repeated | free
        · simp [same, repeated]
        · simp [same, free]
      · simp [same]
    · obtain ⟨fresh, occupied⟩ := not_or.mp settled
      obtain ⟨piece, stands⟩ := Option.ne_none_iff_exists'.mp occupied
      have free : copy.isOccupied first = false := by
        simp [isOccupied, agrees first, fresh]
      have inserted := insert_of_free free piece.kind piece.side
      refine ⟨_, built.insert inserted, sameRules, fun sq => ?_⟩
      rw [pieceOn_put, agrees sq]
      by_cases same : sq = first
      · have unchanged : (⟨piece.kind, piece.side, first⟩ : Piece) = piece := by
          rw [← inPlace first piece stands]
        simp [same, stands, unchanged]
      · simp [same]

/-- The boards that can be built are exactly those with all pieces in place. -/
theorem built_iff_inPlace {board : Board} : board.Built ↔ board.InPlace := by
  constructor
  · exact Built.inPlace
  · intro inPlace
    obtain ⟨copy, built, sameRules, agrees⟩ := exists_built_on inPlace Square.all
    have same : copy = board := by
      refine ext_pieceOn sameRules fun sq => ?_
      rw [agrees sq, if_pos (Square.mem_all sq)]
    exact same ▸ built

end Xiangqi.Board
