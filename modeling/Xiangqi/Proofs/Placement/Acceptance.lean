import Xiangqi.Proofs.Placement.Spread
import Xiangqi.Proofs.Run

/-!
# Boards and games from placements

Setting up a board succeeds exactly for acceptable placements, whatever their order, and otherwise
reports their fault. The entries before the first misfit are spread, so they have been inserted when it
is met (`Spread.exists_filled`), and the board then shows which squares they have taken.
-/

namespace Xiangqi

open Fallible

namespace Board

variable {board : Board} {placement : Placement} {entry : Entry} {error : SetupError} {side : Side}

/-- On each square stands the piece of the entry there, if there is one, and nothing else. -/
def Shows (board : Board) (placement : Placement) : Prop :=
  ∀ sq piece, board.pieceOn sq = some piece ↔
    ∃ entry ∈ placement, entry.At sq ∧ piece = ⟨entry.kind, entry.side, sq⟩

/-- Boards under the same rules that show placements of the same entries are equal. -/
theorem Shows.unique {other : Board} {arranged : Placement} (shows : board.Shows placement)
    (alsoShows : other.Shows arranged) (perm : placement.Perm arranged)
    (rules : board.rules = other.rules) : board = other := by
  apply ext_pieceOn rules
  intro sq
  apply Option.ext
  intro piece
  rw [shows, alsoShows]
  simp only [perm.mem_iff]

/-- An entry that does not fit in with those on the board is turned down for that reason. -/
theorem Shows.insertEntry_eq_error (shows : board.Shows placement)
    (misfit : entry.Misfit placement error) : board.insertEntry entry = .error error := by
  cases misfit with
  | outside off =>
    have lost : Square.ofCoords? entry.row.toInt entry.col.toInt = none := by
      apply Square.ofCoords?_eq_none_iff.mpr
      unfold Entry.OnBoard at off
      omega
    simp only [insertEntry, Square.locate, lost, bind, Except.bind]
  | @repeated _ sq here member there =>
    have stands := (shows _ _).mpr ⟨_, member, there, rfl⟩
    have occupied : board.isOccupied sq = true := by rw [isOccupied, stands, Option.isSome_some]
    have located := Square.locate_eq_ok_iff.mpr here
    simp only [insertEntry, located, bind, Except.bind, insert_of_occupied occupied]

theorem generalCount_eq_generals (same : board.entries.Perm placement) (side : Side) :
    board.generalCount side = placement.generals side := by
  rw [Placement.generals, ← same.countP_eq, entries, List.countP_map, generalCount, army,
    List.countP_filter]
  apply List.countP_congr
  intro piece _
  simp [Piece.isGeneral, Piece.entry, and_comm]

/-- Red's generals are counted before Black's. -/
theorem checkGenerals_eq_error (first : side = .black → board.generalCount .red = 1)
    (wrong : board.generalCount side ≠ 1) :
    board.checkGenerals = .error (if board.generalCount side = 0 then .missingGeneral side
      else .duplicateGeneral side) := by
  have found : (Side.all.find? fun side => board.generalCount side != 1) = some side := by
    cases side with
    | red => simp [Side.all, wrong]
    | black => simp [Side.all, wrong, first rfl]
  unfold checkGenerals
  rw [found]
  by_cases none : board.generalCount side = 0
  · simp only [none, if_true]
  · simp only [none, if_false]

/-- Spread entries are all inserted. The board then shows them, and they can be read off it. -/
theorem exists_filled (spread : placement.Spread) (rules : Rules) :
    ∃ filled : Board, placement.foldlM insertEntry (empty rules) = .ok filled ∧
      filled.rules = rules ∧ filled.Shows placement ∧ filled.entries.Perm placement := by
  obtain ⟨pieces, same, apart⟩ := spread.exists_pieces
  subst same
  obtain ⟨filled, inserted, sameRules, holds⟩ :=
    exists_insertEntries apart fun piece _ => pieceOn_empty rules piece.position
  have stands : ∀ sq piece, filled.pieceOn sq = some piece ↔
      piece ∈ pieces ∧ piece.position = sq := by
    intro sq piece
    rw [holds, pieceOn_empty]
    simp
  have inPlace : filled.InPlace := (inPlace_empty rules).insertEntries inserted
  refine ⟨filled, inserted, sameRules, ?_, ?_⟩
  · intro sq piece
    rw [stands]
    constructor
    · intro found
      obtain ⟨member, position⟩ := found
      refine ⟨piece.entry, List.mem_map_of_mem member, Piece.at_entry_iff.mpr position, ?_⟩
      rw [← position, Piece.entry]
    · intro found
      obtain ⟨entry, member, here, same⟩ := found
      obtain ⟨other, listed, described⟩ := List.mem_map.mp member
      subst described
      have position := Piece.at_entry_iff.mp here
      rw [same, ← position]
      exact ⟨listed, rfl⟩
  · apply List.Perm.map
    apply (List.perm_ext_iff_of_nodup inPlace.nodup_positions.of_map apart.of_map).mpr
    intro piece
    rw [mem_pieces]
    simp only [stands]
    simp

theorem ofPlacement_of_accepted (accepted : placement.Accepted) (rules : Rules) :
    ∃ board, ofPlacement placement rules = .ok board ∧ board.rules = rules ∧
      board.Shows placement ∧ board.entries.Perm placement := by
  obtain ⟨filled, inserted, sameRules, shows, same⟩ := exists_filled accepted.spread rules
  have checked : filled.checkGenerals = .ok () := by
    apply checkGenerals_eq_ok_iff.mpr
    intro side
    rw [generalCount_eq_generals same]
    exact accepted.oneGeneral side
  refine ⟨filled, ?_, sameRules, shows, same⟩
  simp only [ofPlacement, inserted, checked, bind, Except.bind, pure, Except.pure]

/-- Wrong numbers of generals are reported once all entries have been inserted. -/
theorem ofPlacement_of_miscounted (spread : placement.Spread)
    (first : side = .black → placement.generals .red = 1) (wrong : placement.generals side ≠ 1)
    (rules : Rules) :
    ofPlacement placement rules = .error (if placement.generals side = 0 then .missingGeneral side
      else .duplicateGeneral side) := by
  obtain ⟨filled, inserted, -, -, same⟩ := exists_filled spread rules
  rw [← generalCount_eq_generals same] at first wrong ⊢
  simp only [ofPlacement, inserted, checkGenerals_eq_error first wrong, bind, Except.bind]

theorem ofPlacement_of_fault (fault : placement.Fault error) (rules : Rules) :
    ofPlacement placement rules = .error error := by
  cases fault with
  | entry split spread misfit =>
    -- The entries after the misfit are never looked at.
    obtain ⟨filled, inserted, -, shows, -⟩ := exists_filled spread rules
    have failed := shows.insertEntry_eq_error misfit
    simp only [ofPlacement, split, List.foldlM_append, inserted, List.foldlM_cons, failed, bind,
      Except.bind]
  | missing spread first none =>
    rw [ofPlacement_of_miscounted spread first (by omega), if_pos none]
  | duplicate spread first several =>
    rw [ofPlacement_of_miscounted spread first (by omega), if_neg (by omega)]

theorem ofPlacement_eq_error_iff (rules : Rules) :
    ofPlacement placement rules = .error error ↔ placement.Fault error := by
  constructor
  · intro failed
    cases placement.accepted_or_fault with
    | inl accepted =>
      obtain ⟨board, placed, -⟩ := ofPlacement_of_accepted accepted rules
      rw [placed] at failed
      cases failed
    | inr faulty =>
      obtain ⟨fault, holds⟩ := faulty
      rw [ofPlacement_of_fault holds] at failed
      cases failed
      exact holds
  · intro fault
    exact ofPlacement_of_fault fault rules

theorem accepted_of_ofPlacement {rules : Rules} (placed : ofPlacement placement rules = .ok board) :
    placement.Accepted := by
  cases placement.accepted_or_fault with
  | inl accepted => exact accepted
  | inr faulty =>
    obtain ⟨fault, holds⟩ := faulty
    rw [ofPlacement_of_fault holds] at placed
    cases placed

/-- The order of the entries does not matter to a board. -/
theorem toOption_ofPlacement_perm {arranged : Placement} (perm : placement.Perm arranged)
    (rules : Rules) :
    (ofPlacement placement rules).toOption = (ofPlacement arranged rules).toOption := by
  cases outcome : ofPlacement placement rules with
  | ok board =>
    have accepted := accepted_of_ofPlacement outcome
    obtain ⟨_, placed, sameRules, shows, -⟩ := ofPlacement_of_accepted accepted rules
    obtain ⟨other, otherPlaced, otherRules, otherShows, -⟩ :=
      ofPlacement_of_accepted (accepted.perm perm) rules
    rw [outcome] at placed
    cases placed
    rw [otherPlaced, shows.unique otherShows perm (sameRules.trans otherRules.symm)]
  | error fault =>
    cases otherOutcome : ofPlacement arranged rules with
    | ok other =>
      have accepted := (accepted_of_ofPlacement otherOutcome).perm perm.symm
      obtain ⟨_, placed, -⟩ := ofPlacement_of_accepted accepted rules
      rw [outcome] at placed
      cases placed
    | error otherFault => rfl

/-- What comes of setting a board up anew where it is: whether that succeeds, and the board that is
left. -/
def resetting (board : Board) (placement : Placement) : Except SetupError Unit × Board :=
  match board.reset placement with
  | .ok next => (.ok (), next)
  | .error error => (.error error, board)

theorem resetting_eq_ok_iff {next : Board} :
    board.resetting placement = (.ok (), next) ↔ ofPlacement placement board.rules = .ok next := by
  unfold resetting reset
  cases ofPlacement placement board.rules <;> simp

theorem resetting_eq_error_iff {left : Board} :
    board.resetting placement = (.error error, left) ↔ placement.Fault error ∧ left = board := by
  rw [← ofPlacement_eq_error_iff board.rules]
  unfold resetting reset
  cases ofPlacement placement board.rules <;> simp [eq_comm]

end Board

namespace Game

variable {board : Board} {placement : Placement} {settings : Settings} {error : SetupError}
  {game : Game}

theorem ofPlacement_eq_ok_iff :
    ofPlacement placement settings = .ok game ↔
      ∃ board, Board.ofPlacement placement settings.rules = .ok board ∧
        board.inCheck settings.firstToMove.opponent = .ok false ∧
        game = start board settings.firstToMove := by
  rw [ofPlacement, bind_eq_ok_iff]
  apply exists_congr
  intro board
  apply and_congr_right
  intro placed
  have wellFormed := Board.wellFormed_of_ofPlacement placed
  rw [ofBoard_of_wellFormed wellFormed, wellFormed.inPlace.inCheck_eq (wellFormed.hasGeneral _)]
  cases board.inDanger settings.firstToMove.opponent <;> simp [eq_comm]

theorem ofPlacement_eq_error_iff :
    ofPlacement placement settings = .error error ↔ placement.Fault error ∨
      ∃ board, Board.ofPlacement placement settings.rules = .ok board ∧
        board.inCheck settings.firstToMove.opponent = .ok true ∧
        error = .waitingSideInCheck settings.firstToMove.opponent := by
  rw [← Board.ofPlacement_eq_error_iff settings.rules]
  cases outcome : Board.ofPlacement placement settings.rules with
  | error fault => simp [ofPlacement, outcome, bind, Except.bind]
  | ok board =>
    have wellFormed := Board.wellFormed_of_ofPlacement outcome
    have judged := wellFormed.inPlace.inCheck_eq (wellFormed.hasGeneral settings.firstToMove.opponent)
    simp only [ofPlacement, outcome, bind, Except.bind, ofBoard_of_wellFormed wellFormed]
    cases danger : board.inDanger settings.firstToMove.opponent <;> simp [judged, danger, eq_comm]

end Game

namespace Placement

/-- Of a placement a board is set up exactly if its entries lie on the board, each on its own square,
and each side has one general. The board then shows the entries, which can be read off it again, and
the order of the entries does not matter to it. Otherwise the fault of the placement is reported. The
same holds for a board that is set up anew under its rules: what was on it does not matter, and it is
left as it was if the placement is faulty. A game begins if, besides, the side that waits is not in
check. -/
theorem placements_validated (placement : Placement) (rules : Rules) :
    ((∃ board, Board.ofPlacement placement rules = .ok board) ↔ placement.Accepted) ∧
    (∀ board, Board.ofPlacement placement rules = .ok board →
      board.rules = rules ∧ board.Shows placement ∧ board.entries.Perm placement) ∧
    (∀ error, Board.ofPlacement placement rules = .error error ↔ placement.Fault error) ∧
    (∀ arranged, placement.Perm arranged →
      (Board.ofPlacement placement rules).toOption =
        (Board.ofPlacement arranged rules).toOption) ∧
    (∀ previous : Board, previous.rules = rules →
      (∀ board, previous.resetting placement = (.ok (), board) ↔
        Board.ofPlacement placement rules = .ok board) ∧
      ∀ error board, previous.resetting placement = (.error error, board) ↔
        placement.Fault error ∧ board = previous) ∧
    ∀ settings : Settings, settings.rules = rules →
      (∀ game, Game.ofPlacement placement settings = .ok game ↔
        ∃ board, Board.ofPlacement placement rules = .ok board ∧
          board.inCheck settings.firstToMove.opponent = .ok false ∧
          game = Game.start board settings.firstToMove) ∧
      ∀ error, Game.ofPlacement placement settings = .error error ↔ placement.Fault error ∨
        ∃ board, Board.ofPlacement placement rules = .ok board ∧
          board.inCheck settings.firstToMove.opponent = .ok true ∧
          error = .waitingSideInCheck settings.firstToMove.opponent := by
  refine ⟨?_, ?_, ?_, ?_, ?_, ?_⟩
  · constructor
    · intro placed
      obtain ⟨board, placed⟩ := placed
      exact Board.accepted_of_ofPlacement placed
    · intro accepted
      obtain ⟨board, placed, -⟩ := Board.ofPlacement_of_accepted accepted rules
      exact ⟨board, placed⟩
  · intro board placed
    have accepted := Board.accepted_of_ofPlacement placed
    obtain ⟨_, alsoPlaced, shown⟩ := Board.ofPlacement_of_accepted accepted rules
    rw [placed] at alsoPlaced
    cases alsoPlaced
    exact shown
  · intro error
    exact Board.ofPlacement_eq_error_iff rules
  · intro arranged perm
    exact Board.toOption_ofPlacement_perm perm rules
  · intro previous same
    subst same
    exact ⟨fun _ => Board.resetting_eq_ok_iff, fun _ _ => Board.resetting_eq_error_iff⟩
  · intro settings same
    subst same
    exact ⟨fun _ => Game.ofPlacement_eq_ok_iff, fun _ => Game.ofPlacement_eq_error_iff⟩

/-- Two generals are accepted in either order. With two more entries, one on a taken square and one off
the board, it is the first of these that is reported, and the standard opening is left as it was. With a
chariot that attacks the black general the board is set up, but only a game in which Black moves first
begins. -/
theorem placements_validated_order :
    let generals : Placement := [⟨.general, .red, 9, 4⟩, ⟨.general, .black, 0, 3⟩]
    let taken : Entry := ⟨.pawn, .red, 9, 4⟩
    let outside : Entry := ⟨.pawn, .black, 10, 0⟩
    let attacker : Entry := ⟨.chariot, .red, 5, 3⟩
    let opening := Board.opening {}
    (∃ board, Board.ofPlacement generals {} = .ok board ∧
      Board.ofPlacement generals.reverse {} = .ok board ∧
      board.pieceOn ⟨0, 3⟩ = some ⟨.general, .black, ⟨0, 3⟩⟩ ∧
      opening.resetting generals = (.ok (), board) ∧
      Game.ofPlacement generals {} = .ok (Game.start board .red)) ∧
    opening.resetting (generals ++ [taken, outside]) = (.error (.squareOccupied ⟨9, 4⟩), opening) ∧
    opening.resetting (generals ++ [outside, taken]) = (.error (.outOfBounds 10 0), opening) ∧
    ∃ board, Board.ofPlacement (generals ++ [attacker]) {} = .ok board ∧
      Game.ofPlacement (generals ++ [attacker]) {} = .error (.waitingSideInCheck .black) ∧
      Game.ofPlacement (generals ++ [attacker]) { firstToMove := .black } =
        .ok (Game.start board .black) := by
  intro generals taken outside attacker opening
  have spread : generals.Spread := by
    constructor
    · decide
    · decide
  have accepted : generals.Accepted := by
    refine ⟨spread, ?_⟩
    intro side
    cases side <;> rfl
  have safe : (Board.ofPlacement generals {}).toOption.map (fun board =>
      (board.inCheck .black).toOption) = some (some false) := by
    decide +kernel
  obtain ⟨board, placed, calm⟩ := Fallible.exists_ok_of_map_eq_some safe
  have inCheck := eq_ok_of_toOption_eq_some calm
  obtain ⟨-, shown, -, arranged, again, begun⟩ := placements_validated generals {}
  have reversed := arranged generals.reverse (List.reverse_perm _).symm
  rw [placed] at reversed
  have general : board.pieceOn ⟨0, 3⟩ = some ⟨.general, .black, ⟨0, 3⟩⟩ := by
    apply ((shown board placed).2.1 _ _).mpr
    exact ⟨⟨.general, .black, 0, 3⟩, by decide, ⟨rfl, rfl⟩, rfl⟩
  refine ⟨⟨board, placed, eq_ok_of_toOption_eq_some reversed.symm, general, ?_, ?_⟩, ?_, ?_, ?_⟩
  · exact ((again opening rfl).1 board).mpr placed
  · exact ((begun {} rfl).1 _).mpr ⟨board, placed, inCheck, rfl⟩
  · obtain ⟨-, -, -, -, again, -⟩ := placements_validated (generals ++ [taken, outside]) {}
    have first : (⟨.general, .red, 9, 4⟩ : Entry) ∈ generals := List.mem_cons_self
    have misfit : taken.Misfit generals (.squareOccupied ⟨9, 4⟩) :=
      .repeated ⟨rfl, rfl⟩ first ⟨rfl, rfl⟩
    exact ((again opening rfl).2 _ _).mpr ⟨.entry rfl spread misfit, rfl⟩
  · obtain ⟨-, -, -, -, again, -⟩ := placements_validated (generals ++ [outside, taken]) {}
    have misfit : outside.Misfit generals (.outOfBounds 10 0) := .outside (by decide)
    exact ((again opening rfl).2 _ _).mpr ⟨.entry rfl spread misfit, rfl⟩
  · have judged : (Board.ofPlacement (generals ++ [attacker]) {}).toOption.map (fun board =>
        ((board.inCheck .black).toOption, (board.inCheck .red).toOption)) =
          some (some true, some false) := by
      decide +kernel
    obtain ⟨attacked, placed, seen⟩ := Fallible.exists_ok_of_map_eq_some judged
    simp only [Prod.mk.injEq] at seen
    have check := eq_ok_of_toOption_eq_some seen.1
    have calm := eq_ok_of_toOption_eq_some seen.2
    obtain ⟨-, -, -, -, -, begun⟩ := placements_validated (generals ++ [attacker]) {}
    refine ⟨attacked, placed, ?_, ?_⟩
    · exact ((begun {} rfl).2 _).mpr (.inr ⟨attacked, placed, check, rfl⟩)
    · exact ((begun { firstToMove := .black } rfl).1 _).mpr ⟨attacked, placed, calm, rfl⟩

end Placement

end Xiangqi
