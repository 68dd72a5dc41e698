import Xiangqi.Proofs.Listing
import Xiangqi.Proofs.Material
import Xiangqi.Proofs.Notation.Telling

/-!
# Moves that are written alike

In a game from the opening a side never has more than two pieces of a kind, pawns apart: pieces leave
the board and none comes to it. Two pieces cannot crowd on files, so only moves of pawns can be written
alike.
-/

namespace Xiangqi

namespace Board

variable {board : Board} {side : Side} {kind : Kind} {col col' : Fin 9}

/-- A piece of the side can go from the source of the move to its target. -/
def Offers (board : Board) (side : Side) (move : Move) : Prop :=
  ∃ piece, board.pieceOn move.source = some piece ∧ piece.side = side ∧
    board.reaches piece move.target = true

theorem count_material (board : Board) (side : Side) (kind : Kind) :
    board.material.count (kind, side) = (board.army side).countP fun piece => piece.kind == kind := by
  have listed : board.material.count (kind, side) =
      (board.pieces.map fun piece => (piece.kind, piece.side)).countP (· = (kind, side)) := by
    rw [material, Piece.tally, Multiset.count, Multiset.coe_countP]
    simp only [eq_comm]
  rw [listed, List.countP_map, army, List.countP_filter]
  apply List.countP_congr
  intro piece _
  simp

/-- Two tests that no item passes both count no more than a test that both imply. -/
theorem countP_add_countP_le {α : Type} {p q r : α → Bool} (items : List α)
    (first : ∀ item, p item = true → r item = true)
    (second : ∀ item, q item = true → r item = true)
    (apart : ∀ item, q item = true → p item = false) :
    items.countP p + items.countP q ≤ items.countP r := by
  rw [List.countP_eq_countP_filter_add items r p, List.countP_filter, List.countP_filter]
  apply Nat.add_le_add
  · apply List.countP_mono_left
    intro item _ passes
    simp [passes, first item passes]
  · apply List.countP_mono_left
    intro item _ passes
    simp [apart item passes, second item passes]

/-- Two files hold no more pieces of a kind than there are. -/
theorem onFile_add_onFile_le (apart : col ≠ col') :
    board.onFile side kind col + board.onFile side kind col' ≤ board.material.count (kind, side) := by
  rw [count_material]
  apply countP_add_countP_le
  · intro piece onFile
    simp only [Bool.and_eq_true] at onFile
    exact onFile.1
  · intro piece onFile
    simp only [Bool.and_eq_true] at onFile
    exact onFile.1
  · intro piece onFile
    simp only [Bool.and_eq_true, beq_iff_eq] at onFile
    simp [onFile.2, apart.symm]

theorem onFile_le : board.onFile side kind col ≤ board.material.count (kind, side) := by
  rw [count_material, onFile]
  apply List.countP_mono_left
  intro piece _ onFile
  simp only [Bool.and_eq_true] at onFile
  exact onFile.1

/-- Two pieces of a kind are always told apart. -/
theorem telling_of_count_le_two (few : board.material.count (kind, side) ≤ 2) :
    board.Telling side kind := by
  constructor
  · intro col
    exact onFile_le.trans few
  · intro col col' pair pair'
    by_contra apart
    have both : board.onFile side kind col + board.onFile side kind col' ≤ _ :=
      onFile_add_onFile_le apart
    omega

theorem count_material_opening_le (rules : Rules) (side : Side) (notPawn : kind ≠ .pawn) :
    (opening rules).material.count (kind, side) ≤ 2 := by
  rw [count_material]
  obtain ⟨legBlocking⟩ := rules
  cases kind with
  | pawn => exact absurd rfl notPawn
  | general | advisor | elephant | horse | chariot | cannon =>
    cases legBlocking <;> cases side <;> decide +kernel

end Board

namespace Game

/-- No piece comes to the board in a game. -/
theorem Begun.material_run_le {start : Game} (begun : start.Begun) (actions : List Action) :
    (start.run actions).board.material ≤ start.board.material := by
  have nothing : start.taken = 0 := by
    rw [taken, begun.plies_eq_nil]
    rfl
  have balance := begun.sound.material_run actions
  rw [nothing, add_zero] at balance
  rw [← balance]
  exact Multiset.le_add_right _ _

/-- In a game from the opening the text of a move tells its piece, unless the piece is a pawn. -/
theorem telling_of_opening (settings : Settings) (actions : List Action) (side : Side) {kind : Kind}
    (notPawn : kind ≠ .pawn) : ((Game.opening settings).run actions).board.Telling side kind := by
  apply Board.telling_of_count_le_two
  have fewer := (Begun.opening settings).material_run_le actions
  exact (Multiset.count_le_of_le (kind, side) fewer).trans
    (Board.count_material_opening_le settings.rules side notPawn)

end Game

namespace Notation

/-- Different moves of a side that are written alike are moves of one kind, whose pieces the text does
not tell apart. -/
theorem exists_kind_of_describe?_eq {board : Board} {side : Side} {first second : Move}
    (inPlace : board.InPlace) (offered : board.Offers side first)
    (alsoOffered : board.Offers side second) (apart : first ≠ second)
    (same : describe? board first.source first.target =
      describe? board second.source second.target) :
    ∃ piece other, board.pieceOn first.source = some piece ∧
      board.pieceOn second.source = some other ∧ other.kind = piece.kind ∧
      ¬ board.Telling side piece.kind := by
  obtain ⟨piece, stands, owned, reaches⟩ := offered
  obtain ⟨other, otherStands, otherOwned, otherReaches⟩ := alsoOffered
  have sides := otherOwned.trans owned.symm
  obtain ⟨glyphs, -⟩ := write_eq_of_describe?_eq stands otherStands same
  refine ⟨piece, other, stands, otherStands, Piece.kind_eq_of_glyph_eq sides glyphs.symm, ?_⟩
  intro telling
  rw [← owned] at telling
  obtain ⟨sources, targets⟩ := move_eq_of_describe?_eq inPlace telling stands otherStands sides
    reaches otherReaches same
  apply apart
  cases first
  cases second
  simp only [Move.mk.injEq]
  exact ⟨sources, targets⟩

/-- There is no text for a move from a free square, and otherwise a text of four characters: a letter, a
file or a place on a file, a sign, and a number. On every board it tells apart all moves that the pieces
of a side offer, if no three pieces of a kind stand on a file and no two files hold two of them. So in
every game from the opening only legal moves of two pawns can be written alike. -/
theorem notation_tells_moves :
    (∀ board source target, describe? board source target = none ↔ board.pieceOn source = none) ∧
    (∀ board source target text, describe? board source target = some text → Written text) ∧
    (∀ (board : Board) (side : Side), board.Built → (∀ kind, board.Telling side kind) →
      ∀ first second, board.Offers side first → board.Offers side second → first ≠ second →
        describe? board first.source first.target ≠
          describe? board second.source second.target) ∧
    ∀ (settings : Settings) (actions : List Game.Action),
      let game := (Game.opening settings).run actions
      ∃ moves, game.legalMoves = .ok moves ∧ ∀ first ∈ moves, ∀ second ∈ moves, first ≠ second →
        describe? game.board first.source first.target =
          describe? game.board second.source second.target →
        ∃ piece other, game.board.pieceOn first.source = some piece ∧ piece.kind = .pawn ∧
          game.board.pieceOn second.source = some other ∧ other.kind = .pawn := by
  refine ⟨fun board source target => describe?_eq_none_iff,
    fun board source target text => written_of_describe?, ?_, ?_⟩
  · intro board side built telling first second offered alsoOffered apart same
    obtain ⟨piece, -, -, -, -, crowded⟩ :=
      exists_kind_of_describe?_eq built.inPlace offered alsoOffered apart same
    exact crowded (telling piece.kind)
  · intro settings actions game
    have sound : game.Sound := (Game.Begun.opening settings).sound.run actions
    have inPlace := sound.wellFormed.inPlace
    have listed := sound.legalMoves_eq game.toMove
    have offers : ∀ move ∈ game.board.listing game.toMove, game.board.Offers game.toMove move := by
      intro move member
      obtain ⟨piece, stands, owned, allowed⟩ := (inPlace.mem_legalMoves_iff
        (sound.wellFormed.hasGeneral game.toMove) listed).mp member
      rw [Board.allows, Bool.and_eq_true] at allowed
      exact ⟨piece, stands, owned, allowed.1⟩
    refine ⟨_, listed, ?_⟩
    intro first member second alsoMember apart same
    obtain ⟨piece, other, stands, otherStands, kinds, crowded⟩ :=
      exists_kind_of_describe?_eq inPlace (offers first member) (offers second alsoMember) apart same
    have pawn : piece.kind = .pawn := by
      by_contra notPawn
      exact crowded (Game.telling_of_opening settings actions game.toMove notPawn)
    exact ⟨piece, other, stands, pawn, otherStands, kinds.trans pawn⟩

/-- Two of Red's horses stand on a file, one before the other, and jump to the same file. -/
theorem notation_tells_moves_tandem :
    ∃ board : Board, board.Built ∧ (∀ kind, board.Telling .red kind) ∧
      board.Offers .red ⟨⟨5, 2⟩, ⟨3, 3⟩⟩ ∧ board.Offers .red ⟨⟨7, 2⟩, ⟨5, 3⟩⟩ ∧
      describe? board ⟨5, 2⟩ ⟨3, 3⟩ ≠ describe? board ⟨7, 2⟩ ⟨5, 3⟩ := by
  have seen : (Board.ofPlacement [⟨.general, .red, 9, 4⟩, ⟨.general, .black, 0, 3⟩,
      ⟨.horse, .red, 5, 2⟩, ⟨.horse, .red, 7, 2⟩, ⟨.cannon, .red, 7, 1⟩, ⟨.cannon, .red, 2, 1⟩]
      {}).toOption.map (fun board =>
        (board.pieceOn ⟨5, 2⟩, board.pieceOn ⟨7, 2⟩,
          board.reaches ⟨.horse, .red, ⟨5, 2⟩⟩ ⟨3, 3⟩, board.reaches ⟨.horse, .red, ⟨7, 2⟩⟩ ⟨5, 3⟩,
          Kind.all.all fun kind => decide (board.material.count (kind, .red) ≤ 2))) =
      some (some ⟨.horse, .red, ⟨5, 2⟩⟩, some ⟨.horse, .red, ⟨7, 2⟩⟩, true, true, true) := by
    decide +kernel
  obtain ⟨board, placed, looked⟩ := Fallible.exists_ok_of_map_eq_some seen
  simp only [Prod.mk.injEq] at looked
  obtain ⟨front, rear, frontJump, rearJump, few⟩ := looked
  have built : board.Built := .ofPlacement placed
  have telling : ∀ kind, board.Telling .red kind := by
    intro kind
    apply Board.telling_of_count_le_two
    exact of_decide_eq_true (List.all_eq_true.mp few kind (Kind.mem_all kind))
  have first : board.Offers .red ⟨⟨5, 2⟩, ⟨3, 3⟩⟩ := ⟨_, front, rfl, frontJump⟩
  have second : board.Offers .red ⟨⟨7, 2⟩, ⟨5, 3⟩⟩ := ⟨_, rear, rfl, rearJump⟩
  obtain ⟨-, -, tells, -⟩ := notation_tells_moves
  have apart := tells board .red built telling _ _ first second (by decide)
  exact ⟨board, built, telling, first, second, apart⟩

end Notation

end Xiangqi
