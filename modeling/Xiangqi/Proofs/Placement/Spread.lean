import Mathlib.Data.List.Induction
import Mathlib.Data.Set.List
import Xiangqi.Proofs.Board.Entries

/-!
# What makes a placement acceptable

A placement is acceptable if its entries lie on the board, each on a square of its own, and it has one
general for each side. This does not depend on the order of the entries. The fault that is reported for
any other placement does: it is that of the first entry which does not fit in with the ones before it,
and that of the generals only if all entries fit in.
-/

namespace Xiangqi

namespace Entry

variable {entry : Entry} {sq : Square}

/-- The coordinates of the entry lie on the board. -/
def OnBoard (entry : Entry) : Prop :=
  (0 ≤ entry.row.toInt ∧ entry.row.toInt < 10) ∧ 0 ≤ entry.col.toInt ∧ entry.col.toInt < 9

/-- The coordinates of the entry are those of the square. -/
def At (entry : Entry) (sq : Square) : Prop :=
  entry.row.toInt = sq.rank ∧ entry.col.toInt = sq.file

/-- Two entries have the same coordinates. -/
def Meets (entry other : Entry) : Prop :=
  entry.row = other.row ∧ entry.col = other.col

instance (entry : Entry) : Decidable entry.OnBoard :=
  inferInstanceAs (Decidable (_ ∧ _))

instance (entry other : Entry) : Decidable (entry.Meets other) :=
  inferInstanceAs (Decidable (_ ∧ _))

/-- What is wrong with an entry that comes after the given ones: it is off the board, or an earlier
entry is on its square. -/
inductive Misfit (earlier : Placement) (entry : Entry) : SetupError → Prop
  | outside (off : ¬ entry.OnBoard) : Misfit earlier entry (.outOfBounds entry.row entry.col)
  | repeated {other : Entry} {sq : Square} (here : entry.At sq) (member : other ∈ earlier)
      (there : other.At sq) : Misfit earlier entry (.squareOccupied sq)

theorem onBoard_iff : entry.OnBoard ↔ ∃ sq, entry.At sq := by
  constructor
  · intro onBoard
    cases found : Square.ofCoords? entry.row.toInt entry.col.toInt with
    | none =>
      have beyond := Square.ofCoords?_eq_none_iff.mp found
      unfold OnBoard at onBoard
      omega
    | some sq => exact ⟨sq, Square.ofCoords?_eq_some_iff.mp found⟩
  · intro found
    obtain ⟨sq, rows, cols⟩ := found
    have row := sq.row.isLt
    have col := sq.col.isLt
    rw [OnBoard, rows, cols, Square.rank, Square.file]
    omega

theorem At.unique {other : Square} (here : entry.At sq) (there : entry.At other) : sq = other := by
  have found := Square.ofCoords?_eq_some_iff.mpr here
  have alsoFound := Square.ofCoords?_eq_some_iff.mpr there
  rw [found] at alsoFound
  exact Option.some.inj alsoFound

theorem At.meets {other : Entry} (here : entry.At sq) (there : other.At sq) : entry.Meets other := by
  constructor
  · exact Int32.toInt_inj.mp (here.1.trans there.1.symm)
  · exact Int32.toInt_inj.mp (here.2.trans there.2.symm)

theorem At.of_meets {other : Entry} (here : entry.At sq) (meets : other.Meets entry) :
    other.At sq := by
  rw [At, meets.1, meets.2]
  exact here

end Entry

namespace Piece

variable {piece : Piece} {sq : Square}

theorem at_entry (piece : Piece) : piece.entry.At piece.position :=
  Square.locate_eq_ok_iff.mp piece.locate_entry

theorem at_entry_iff : piece.entry.At sq ↔ piece.position = sq := by
  constructor
  · exact piece.at_entry.unique
  · intro same
    rw [← same]
    exact piece.at_entry

/-- An entry on the board is that of the piece it describes. -/
theorem entry_eq_of_at {entry : Entry} (found : entry.At sq) :
    (⟨entry.kind, entry.side, sq⟩ : Piece).entry = entry := by
  obtain ⟨kind, side, row, col⟩ := entry
  have same := found.meets (Piece.at_entry ⟨kind, side, sq⟩)
  simp only [Entry.Meets, Piece.entry] at same
  rw [Piece.entry, same.1, same.2]

end Piece

namespace Placement

variable {placement other before after : Placement} {entry : Entry} {error : SetupError}

/-- All entries lie on the board, and no two of them share a square. -/
structure Spread (placement : Placement) : Prop where
  onBoard : ∀ entry ∈ placement, entry.OnBoard
  apart : placement.Pairwise fun entry other => ¬ entry.Meets other

/-- The number of the side's generals in a placement. -/
def generals (placement : Placement) (side : Side) : Nat :=
  placement.countP fun entry => entry.side == side && entry.kind == .general

/-- The placements of which boards can be set up. -/
structure Accepted (placement : Placement) : Prop where
  spread : placement.Spread
  oneGeneral : ∀ side, placement.generals side = 1

/-- What is wrong with a placement: the first entry that does not fit in with those before it, and if
all fit in, the number of generals, Red's before Black's. -/
inductive Fault (placement : Placement) : SetupError → Prop
  | entry {before after : Placement} {entry : Entry} {error : SetupError}
      (split : placement = before ++ entry :: after) (spread : before.Spread)
      (misfit : entry.Misfit before error) : Fault placement error
  | missing {side : Side} (spread : placement.Spread)
      (first : side = .black → placement.generals .red = 1) (none : placement.generals side = 0) :
      Fault placement (.missingGeneral side)
  | duplicate {side : Side} (spread : placement.Spread)
      (first : side = .black → placement.generals .red = 1)
      (several : 2 ≤ placement.generals side) : Fault placement (.duplicateGeneral side)

theorem Spread.perm (spread : placement.Spread) (perm : placement.Perm other) : other.Spread := by
  constructor
  · intro entry member
    exact spread.onBoard entry (perm.mem_iff.mpr member)
  · apply spread.apart.perm perm
    intro entry other apart meets
    exact apart ⟨meets.1.symm, meets.2.symm⟩

theorem Accepted.perm (accepted : placement.Accepted) (perm : placement.Perm other) :
    other.Accepted := by
  constructor
  · exact accepted.spread.perm perm
  · intro side
    rw [generals, ← perm.countP_eq]
    exact accepted.oneGeneral side

/-- An entry that fits in can be added. -/
theorem Spread.concat (spread : before.Spread) (fits : ∀ error, ¬ entry.Misfit before error) :
    Spread (before ++ [entry]) := by
  have onBoard : entry.OnBoard := by
    by_contra off
    exact fits _ (.outside off)
  obtain ⟨sq, here⟩ := Entry.onBoard_iff.mp onBoard
  constructor
  · intro other member
    rcases List.mem_append.mp member with earlier | last
    · exact spread.onBoard other earlier
    · rw [List.mem_singleton.mp last]
      exact onBoard
  · apply List.pairwise_append.mpr
    refine ⟨spread.apart, List.pairwise_singleton _ _, ?_⟩
    intro other member last isLast meets
    rw [List.mem_singleton.mp isLast] at meets
    exact fits _ (.repeated here member (here.of_meets meets))

/-- In every placement all entries fit in, or there is a first one that does not. -/
theorem spread_or_misfit (placement : Placement) :
    placement.Spread ∨ ∃ before entry after error, placement = before ++ entry :: after ∧
      Spread before ∧ entry.Misfit before error := by
  -- The induction takes entries from the end, since the ones before an entry decide whether it fits.
  induction placement using List.reverseRecOn with
  | nil =>
    left
    constructor
    · intro entry member
      cases member
    · exact List.Pairwise.nil
  | append_singleton before entry ih =>
    cases ih with
    | inr found =>
      obtain ⟨first, wrong, between, error, split, spread, misfit⟩ := found
      refine .inr ⟨first, wrong, between ++ [entry], error, ?_, spread, misfit⟩
      rw [split, List.append_assoc, List.cons_append]
    | inl spread =>
      by_cases fits : ∃ error, entry.Misfit before error
      · obtain ⟨error, misfit⟩ := fits
        exact .inr ⟨before, entry, [], error, rfl, spread, misfit⟩
      · exact .inl (spread.concat (not_exists.mp fits))

theorem accepted_or_fault (placement : Placement) :
    placement.Accepted ∨ ∃ error, placement.Fault error := by
  cases placement.spread_or_misfit with
  | inr found =>
    obtain ⟨before, entry, after, error, split, spread, misfit⟩ := found
    exact .inr ⟨error, .entry split spread misfit⟩
  | inl spread =>
    have wrong : ∀ side, (side = .black → placement.generals .red = 1) →
        placement.generals side ≠ 1 → ∃ error, placement.Fault error := by
      intro side first other
      by_cases none : placement.generals side = 0
      · exact ⟨_, .missing spread first none⟩
      · exact ⟨_, .duplicate spread first (by omega)⟩
    by_cases red : placement.generals .red = 1
    · by_cases black : placement.generals .black = 1
      · left
        constructor
        · exact spread
        · intro side
          cases side with
          | red => exact red
          | black => exact black
      · exact .inr (wrong .black (fun _ => red) black)
    · exact .inr (wrong .red (by simp) red)

/-- The entries of a spread placement describe pieces on different squares. -/
theorem Spread.exists_pieces (spread : placement.Spread) :
    ∃ pieces : List Piece, placement = pieces.map Piece.entry ∧
      (pieces.map Piece.position).Nodup := by
  have described : placement ∈ Set.range (List.map Piece.entry) := by
    rw [Set.range_list_map]
    intro entry member
    obtain ⟨sq, here⟩ := Entry.onBoard_iff.mp (spread.onBoard entry member)
    exact ⟨_, Piece.entry_eq_of_at here⟩
  obtain ⟨pieces, same⟩ := described
  subst same
  refine ⟨pieces, rfl, ?_⟩
  apply List.pairwise_map.mpr
  apply (List.pairwise_map.mp spread.apart).imp
  intro piece other apart same
  apply apart
  have here := piece.at_entry
  rw [same] at here
  exact here.meets other.at_entry

end Placement

end Xiangqi
