import Xiangqi.Proofs.Board.Order
import Xiangqi.Proofs.Placement.Acceptance

/-!
# Operations on a board in place

A host keeps one board and places, relocates and resets pieces on it. `Board.operate` is one such
operation, with the board that it leaves whether it succeeds or fails, and `Board.operateAll` a sequence
of them. No operation takes a piece out of step with its square or touches the rules, so whatever reads a
board by the positions of its pieces reads what stands on its squares.
-/

namespace Xiangqi.Board

/-- What comes of placing a piece: whether that succeeds, and the board that is left. -/
def placing (board : Board) (kind : Kind) (side : Side) (sq : Square) :
    Except SetupError Unit × Board :=
  match board.insert kind side sq with
  | .ok next => (.ok (), next)
  | .error error => (.error error, board)

/-- What comes of relocating a piece: what it captures, and the board that is left. The source is cleared
before it is known whether something stood there. -/
def relocating (board : Board) (source target : Square) :
    Except Corruption (Option Piece) × Board :=
  let lifted := board.put source none
  match board.pieceOn source with
  | none => (.error (.emptySource source), lifted)
  | some piece =>
    (.ok (lifted.pieceOn target), lifted.put target (some { piece with position := target }))

/-- What a host may do to its board. -/
inductive Operation where
  | place (kind : Kind) (side : Side) (sq : Square)
  | relocate (source target : Square)
  | reset (placement : Placement)

/-- The board that an operation leaves, successful or not. -/
def operate (board : Board) : Operation → Board
  | .place kind side sq => (board.placing kind side sq).2
  | .relocate source target => (board.relocating source target).2
  | .reset placement => (board.resetting placement).2

/-- The board that a sequence of operations leaves. -/
def operateAll (board : Board) (operations : List Operation) : Board :=
  operations.foldl operate board

/-- A board on which nothing has been done yet. -/
inductive Fresh (rules : Rules) : Board → Prop
  | empty : Fresh rules (Board.empty rules)
  | opening : Fresh rules (Board.opening rules)
  | ofPlacement {placement : Placement} {board : Board}
      (placed : Board.ofPlacement placement rules = .ok board) : Fresh rules board

/-- The board is played under the given rules, and what is read off its pieces is what stands on its
squares. -/
structure Faithful (rules : Rules) (board : Board) : Prop where
  inPlace : ∀ sq piece, board.pieceOn sq = some piece → piece.position = sq
  /-- The audit finds no piece that believes to stand elsewhere. -/
  matched : ∀ slot stored, board.audit ≠ .error (.positionMismatch slot stored)
  rules_eq : board.rules = rules
  ordered : (board.pieces.map Piece.position).Pairwise Square.Before
  /-- What stands on a square is listed once, and nothing else is. -/
  listed : ∀ piece, board.pieces.count piece =
    if board.pieceOn piece.position = some piece then 1 else 0
  /-- The first general of a side, in board order, is the one that is found. -/
  general : ∀ side sq, board.generalSquare? side = some sq ↔ board.holdsGeneral side sq = true ∧
    ∀ earlier : Square, earlier.Before sq → board.holdsGeneral side earlier = false
  noGeneral : ∀ side, board.generalSquare? side = none ↔ ∀ sq, board.holdsGeneral side sq = false

variable {board : Board} {rules : Rules} {placement : Placement} {side : Side}
  {sq source target : Square} {piece : Piece}

/-! ## Single operations -/

/-- Clearing a free source does nothing, so a relocation is a transfer that leaves the board as it was
if it fails. -/
theorem relocating_eq (board : Board) (source target : Square) :
    board.relocating source target =
      match board.transfer source target with
      | .ok (captured, next) => (.ok captured, next)
      | .error fault => (.error fault, board) := by
  unfold relocating transfer
  cases stands : board.pieceOn source with
  | some piece => rfl
  | none =>
    have unchanged : board.put source none = board := by
      rw [← stands, put_pieceOn]
    simp only [unchanged]

theorem relocating_of_free (free : board.pieceOn source = none) (target : Square) :
    board.relocating source target = (.error (.emptySource source), board) := by
  rw [relocating_eq, transfer_eq_error_iff.mpr ⟨free, rfl⟩]

theorem relocating_of_pieceOn (stands : board.pieceOn source = some piece) (target : Square) :
    board.relocating source target =
      (.ok (if target = source then none else board.pieceOn target), board.carry source target) := by
  rw [relocating_eq, transfer_of_pieceOn stands]

/-- A piece that is put back on its own square captures nothing. -/
theorem InPlace.relocating_self (inPlace : board.InPlace)
    (stands : board.pieceOn source = some piece) :
    board.relocating source source = (.ok none, board) := by
  have unchanged : board.carry source source = board := by
    apply ext_pieceOn (rules_carry board source source)
    intro other
    rw [pieceOn_carry stands]
    by_cases here : other = source
    · have position := inPlace source piece stands
      rw [if_pos here, here, stands, ← position]
    · simp [here]
  rw [relocating_of_pieceOn stands, unchanged, if_pos rfl]

theorem placing_of_occupied (occupied : board.isOccupied sq = true) (kind : Kind) (side : Side) :
    board.placing kind side sq = (.error (.squareOccupied sq), board) := by
  rw [placing, insert_of_occupied occupied]

theorem placing_of_free (free : board.isOccupied sq = false) (kind : Kind) (side : Side) :
    board.placing kind side sq = (.ok (), board.put sq (some ⟨kind, side, sq⟩)) := by
  rw [placing, insert_of_free free]

/-! ## Sequences of operations -/

theorem rules_of_ofPlacement (placed : ofPlacement placement rules = .ok board) :
    board.rules = rules := by
  obtain ⟨_, alsoPlaced, sameRules, -⟩ :=
    ofPlacement_of_accepted (accepted_of_ofPlacement placed) rules
  rw [placed] at alsoPlaced
  cases alsoPlaced
  exact sameRules

theorem Fresh.built (fresh : Fresh rules board) : board.Built := by
  cases fresh with
  | empty => exact .empty rules
  | opening => exact .opening rules
  | ofPlacement placed => exact .ofPlacement placed

theorem Fresh.rules_eq (fresh : Fresh rules board) : board.rules = rules := by
  cases fresh with
  | empty => rfl
  | opening =>
    obtain ⟨legBlocking⟩ := rules
    cases legBlocking <;> decide +kernel
  | ofPlacement placed => exact rules_of_ofPlacement placed

/-- An operation leads from a built board to a built board under the same rules. -/
theorem Built.operate (built : board.Built) (operation : Operation) :
    (board.operate operation).Built ∧ (board.operate operation).rules = board.rules := by
  cases operation with
  | place kind side sq =>
    cases occupied : board.isOccupied sq with
    | true =>
      rw [Board.operate, placing_of_occupied occupied]
      exact ⟨built, rfl⟩
    | false =>
      rw [Board.operate, placing_of_free occupied]
      exact ⟨built.insert (insert_of_free occupied kind side), rfl⟩
  | relocate source target =>
    cases stands : board.pieceOn source with
    | none =>
      rw [Board.operate, relocating_of_free stands]
      exact ⟨built, rfl⟩
    | some piece =>
      rw [Board.operate, relocating_of_pieceOn stands]
      exact ⟨built.transfer (transfer_of_pieceOn stands), rules_carry board source target⟩
  | reset placement =>
    rw [Board.operate, resetting]
    cases placed : board.reset placement with
    | error error => exact ⟨built, rfl⟩
    | ok next => exact ⟨built.reset placed, rules_of_ofPlacement placed⟩

theorem Built.operateAll (built : board.Built) (operations : List Operation) :
    (board.operateAll operations).Built ∧ (board.operateAll operations).rules = board.rules := by
  induction operations generalizing board with
  | nil => exact ⟨built, rfl⟩
  | cons operation rest ih =>
    obtain ⟨builtNext, sameRules⟩ := built.operate operation
    obtain ⟨builtLast, lastRules⟩ := ih builtNext
    exact ⟨builtLast, lastRules.trans sameRules⟩

/-! ## What can be read off a board with all pieces in place -/

theorem InPlace.audit_ne_mismatch (inPlace : board.InPlace) (slot stored : Square) :
    board.audit ≠ .error (.positionMismatch slot stored) := by
  have placed : Square.all.findSome? board.misplaced? = none := by
    apply List.findSome?_eq_none_iff.mpr
    intro sq _
    exact misplaced?_eq_none_iff.mpr fun piece stands => inPlace sq piece stands
  unfold audit
  rw [placed]
  simp only
  split
  · simp
  · simp

/-- Each piece is listed once, whatever its square. -/
theorem InPlace.count_pieces (inPlace : board.InPlace) (piece : Piece) :
    board.pieces.count piece = if board.pieceOn piece.position = some piece then 1 else 0 := by
  have distinct : board.pieces.Nodup := inPlace.nodup_positions.of_map
  by_cases stands : board.pieceOn piece.position = some piece
  · rw [if_pos stands]
    exact List.count_eq_one_of_mem distinct (mem_pieces.mpr ⟨_, stands⟩)
  · rw [if_neg stands, List.count_eq_zero, mem_pieces]
    rintro ⟨sq, standsElsewhere⟩
    exact stands (inPlace.pieceOn_position standsElsewhere)

/-- The search for a general finds the first one in board order. -/
theorem InPlace.generalSquare?_eq_some_iff (inPlace : board.InPlace) :
    board.generalSquare? side = some sq ↔ board.holdsGeneral side sq = true ∧
      ∀ earlier : Square, earlier.Before sq → board.holdsGeneral side earlier = false := by
  rw [inPlace.generalSquare?]
  exact Square.find?_all_eq_some_iff

theorem InPlace.generalSquare?_eq_none_iff (inPlace : board.InPlace) :
    board.generalSquare? side = none ↔ ∀ sq, board.holdsGeneral side sq = false := by
  rw [inPlace.generalSquare?, List.find?_eq_none]
  simp [Square.mem_all]

theorem Built.faithful (built : board.Built) : Faithful board.rules board where
  inPlace := built.inPlace
  matched := built.inPlace.audit_ne_mismatch
  rules_eq := rfl
  ordered := built.inPlace.pairwise_pieces
  listed := built.inPlace.count_pieces
  general := fun _ _ => built.inPlace.generalSquare?_eq_some_iff
  noGeneral := fun _ => built.inPlace.generalSquare?_eq_none_iff

/-- Whatever is done to a fresh board, it stays faithful. A relocation fails exactly from a free square;
else it takes the piece from its source to its target, gives what stood there, and changes no other
square, nor any square if the two are the same. A piece is placed exactly on a free square, and no other
square changes. What fails leaves the board as it was. -/
theorem operations_keep_faithful {rules : Rules} {start : Board} (fresh : Fresh rules start)
    (operations : List Operation) :
    let board := start.operateAll operations
    Faithful rules board ∧
    (∀ source target, board.pieceOn source = none →
      board.relocating source target = (.error (.emptySource source), board)) ∧
    (∀ source piece, board.pieceOn source = some piece →
      board.relocating source source = (.ok none, board)) ∧
    (∀ source target piece, board.pieceOn source = some piece → source ≠ target →
      ∃ next, board.relocating source target = (.ok (board.pieceOn target), next) ∧
        next.rules = rules ∧ ∀ sq, next.pieceOn sq =
          if sq = target then some { piece with position := target }
          else if sq = source then none
          else board.pieceOn sq) ∧
    (∀ kind side sq, board.isOccupied sq = true →
      board.placing kind side sq = (.error (.squareOccupied sq), board)) ∧
    ∀ kind side sq, board.isOccupied sq = false →
      ∃ next, board.placing kind side sq = (.ok (), next) ∧ next.rules = rules ∧
        ∀ other, next.pieceOn other =
          if other = sq then some ⟨kind, side, sq⟩ else board.pieceOn other := by
  intro board
  obtain ⟨built, sameRules⟩ := fresh.built.operateAll operations
  have rulesEq : board.rules = rules := sameRules.trans fresh.rules_eq
  refine ⟨rulesEq ▸ built.faithful, fun source target free => relocating_of_free free target,
    fun source piece stands => built.inPlace.relocating_self stands, ?_,
    fun kind side sq occupied => placing_of_occupied occupied kind side, ?_⟩
  · intro source target piece stands apart
    refine ⟨board.carry source target, ?_, ?_, ?_⟩
    · rw [relocating_of_pieceOn stands, if_neg apart.symm]
    · rw [rules_carry, rulesEq]
    · intro sq
      exact pieceOn_carry stands sq
  · intro kind side sq free
    refine ⟨board.put sq (some ⟨kind, side, sq⟩), placing_of_free free kind side, rulesEq, ?_⟩
    intro other
    exact pieceOn_put board sq other _

/-- Three of these operations fail: a square is taken, another is free, and the placement has no generals.
The cannon has captured a horse and was put back on its own square, and a black cannon is where it came
from. -/
theorem operations_keep_faithful_capture :
    let operations : List Operation := [.place .pawn .red ⟨9, 4⟩, .relocate ⟨7, 1⟩ ⟨0, 1⟩,
      .relocate ⟨0, 1⟩ ⟨0, 1⟩, .relocate ⟨5, 5⟩ ⟨4, 4⟩, .reset [⟨.pawn, .red, 4, 4⟩],
      .place .cannon .black ⟨7, 1⟩]
    let board := (Board.opening {}).operateAll operations
    Fresh {} (Board.opening {}) ∧ board.rules = {} ∧ board.pieces.length = 32 ∧
      board.pieces.count ⟨.cannon, .red, ⟨0, 1⟩⟩ = 1 ∧ board.generalSquare? .red = some ⟨9, 4⟩ ∧
      board.relocating ⟨5, 5⟩ ⟨9, 4⟩ = (.error (.emptySource ⟨5, 5⟩), board) ∧
      (board.relocating ⟨7, 1⟩ ⟨9, 1⟩).1 = .ok (some ⟨.horse, .red, ⟨9, 1⟩⟩) ∧
      board.placing .pawn .red ⟨7, 1⟩ = (.error (.squareOccupied ⟨7, 1⟩), board) := by
  intro operations board
  have fresh : Fresh {} (Board.opening {}) := .opening
  obtain ⟨faithful, free, -, moved, occupied, -⟩ := operations_keep_faithful fresh operations
  have cannon : board.pieceOn ⟨0, 1⟩ = some ⟨.cannon, .red, ⟨0, 1⟩⟩ := by decide +kernel
  have placed : board.pieceOn ⟨7, 1⟩ = some ⟨.cannon, .black, ⟨7, 1⟩⟩ := by decide +kernel
  have horse : board.pieceOn ⟨9, 1⟩ = some ⟨.horse, .red, ⟨9, 1⟩⟩ := by decide +kernel
  have found : board.holdsGeneral .red ⟨9, 4⟩ = true ∧
      ∀ earlier ∈ Square.all, earlier.Before ⟨9, 4⟩ → board.holdsGeneral .red earlier = false := by
    decide +kernel
  refine ⟨fresh, faithful.rules_eq, by decide +kernel, ?_, ?_, free _ _ (by decide +kernel), ?_, ?_⟩
  · rw [faithful.listed, if_pos cannon]
  · apply (faithful.general .red ⟨9, 4⟩).mpr
    exact ⟨found.1, fun earlier => found.2 earlier (Square.mem_all earlier)⟩
  · obtain ⟨next, captured, -⟩ := moved ⟨7, 1⟩ ⟨9, 1⟩ _ placed (by decide)
    rw [captured, horse]
  · exact occupied .pawn .red ⟨7, 1⟩ (by decide +kernel)

end Xiangqi.Board
