import Xiangqi.Proofs.Run

/-!
# Where pieces stay

In a game from the opening four kinds of piece are tied to a part of the board: generals to their
palace, advisors and elephants to a few points, and pawns to every second file until they have crossed
the river. For three of them the rule of movement alone keeps a piece there. A general could leave its
palace toward the opposing general along an open line, but that move is never made, since a general
that waits is out of danger and so is reached by nothing.
-/

namespace Xiangqi

namespace Square

/-- The points of a palace that its diagonals join. -/
def advisorPoints : Side → List Square
  | .red => [⟨9, 3⟩, ⟨9, 5⟩, ⟨8, 4⟩, ⟨7, 3⟩, ⟨7, 5⟩]
  | .black => [⟨0, 3⟩, ⟨0, 5⟩, ⟨1, 4⟩, ⟨2, 3⟩, ⟨2, 5⟩]

/-- The points of a bank that can be reached from an elephant's first square in elephant moves. -/
def elephantPoints : Side → List Square
  | .red => [⟨9, 2⟩, ⟨9, 6⟩, ⟨7, 0⟩, ⟨7, 4⟩, ⟨7, 8⟩, ⟨5, 2⟩, ⟨5, 6⟩]
  | .black => [⟨0, 2⟩, ⟨0, 6⟩, ⟨2, 0⟩, ⟨2, 4⟩, ⟨2, 8⟩, ⟨4, 2⟩, ⟨4, 6⟩]

/-- The two squares of an even file on which a pawn stands before it crosses the river. -/
def isPawnPoint (sq : Square) : Side → Bool
  | .red => sq.col.val % 2 == 0 && (sq.row == 6 || sq.row == 5)
  | .black => sq.col.val % 2 == 0 && (sq.row == 3 || sq.row == 4)

end Square

/-- Where a piece of the kind and side may stand in a game from the opening. -/
def Kind.InZone (side : Side) (sq : Square) : Kind → Prop
  | .general => sq.inPalace side = true
  | .advisor => sq ∈ Square.advisorPoints side
  | .elephant => sq ∈ Square.elephantPoints side
  | .pawn => sq.onOwnBank side = true → sq.isPawnPoint side = true
  | .horse | .chariot | .cannon => True

instance (side : Side) (sq : Square) : (kind : Kind) → Decidable (kind.InZone side sq)
  | .general => inferInstanceAs (Decidable (sq.inPalace side = true))
  | .advisor => inferInstanceAs (Decidable (sq ∈ Square.advisorPoints side))
  | .elephant => inferInstanceAs (Decidable (sq ∈ Square.elephantPoints side))
  | .pawn => inferInstanceAs (Decidable (sq.onOwnBank side = true → sq.isPawnPoint side = true))
  | .horse | .chariot | .cannon => inferInstanceAs (Decidable True)

namespace Board

variable {board : Board} {piece : Piece} {target : Square}

/-- A general that does not go for another general stays in its palace. -/
theorem inPalace_of_generalReaches (reaches : board.generalReaches piece target = true)
    (spared : ∀ side, board.holdsGeneral side target = false) :
    target.inPalace piece.side = true := by
  unfold generalReaches at reaches
  split at reaches
  · exact reaches
  · rw [Bool.and_eq_true, Option.any_eq_true] at reaches
    obtain ⟨⟨other, stands, isGeneral⟩, -⟩ := reaches
    have holds : board.holdsGeneral other.side target = true :=
      holdsGeneral_eq_true_iff.mpr ⟨other, stands, rfl, beq_iff_eq.mp isGeneral⟩
    rw [spared other.side] at holds
    cases holds

theorem mem_advisorPoints_of_advisorReaches
    (start : piece.position ∈ Square.advisorPoints piece.side)
    (reaches : advisorReaches piece target = true) : target ∈ Square.advisorPoints piece.side := by
  -- Five points a side, and from each of them all squares are looked at.
  have closed : ∀ side ∈ Side.all, ∀ source ∈ Square.advisorPoints side, ∀ target ∈ Square.all,
      ((source.rowsTo target).natAbs == 1 && (source.colsTo target).natAbs == 1 &&
        target.inPalace side) = true → target ∈ Square.advisorPoints side := by
    decide +kernel
  exact closed piece.side (Side.mem_all _) piece.position start target (Square.mem_all _) reaches

theorem mem_elephantPoints_of_elephantReaches
    (start : piece.position ∈ Square.elephantPoints piece.side)
    (reaches : board.elephantReaches piece target = true) :
    target ∈ Square.elephantPoints piece.side := by
  have closed : ∀ side ∈ Side.all, ∀ source ∈ Square.elephantPoints side, ∀ target ∈ Square.all,
      ((source.rowsTo target).natAbs == 2 && (source.colsTo target).natAbs == 2 &&
        target.onOwnBank side) = true → target ∈ Square.elephantPoints side := by
    decide +kernel
  -- The rule also asks for a free square in between, which does not matter here.
  have jump := (Bool.and_eq_true _ _).mp reaches
  exact closed piece.side (Side.mem_all _) piece.position start target (Square.mem_all _) jump.1

/-- A pawn that is still on its own bank after its step has come straight on from its own bank. -/
theorem isPawnPoint_of_pawnReaches
    (start : piece.position.onOwnBank piece.side = true →
      piece.position.isPawnPoint piece.side = true)
    (reaches : pawnReaches piece target = true) (stays : target.onOwnBank piece.side = true) :
    target.isPawnPoint piece.side = true := by
  obtain ⟨kind, side, position⟩ := piece
  simp only [pawnReaches, Bool.or_eq_true, Bool.and_eq_true, beq_iff_eq, Bool.not_eq_true',
    Square.rowsTo, Square.colsTo, Square.rank, Square.file] at reaches
  have rowLt := target.row.isLt
  cases side with
  | red =>
    simp only [Square.onOwnBank, Square.isPawnPoint, Side.heading, Bool.and_eq_true,
      Bool.or_eq_true, beq_iff_eq, decide_eq_true_eq, decide_eq_false_iff_not, Fin.ext_iff]
      at start reaches stays ⊢
    omega
  | black =>
    simp only [Square.onOwnBank, Square.isPawnPoint, Side.heading, Bool.and_eq_true,
      Bool.or_eq_true, beq_iff_eq, decide_eq_true_eq, decide_eq_false_iff_not, Fin.ext_iff]
      at start reaches stays ⊢
    omega

/-- A move that takes no general keeps the piece in its zone. -/
theorem inZone_of_reaches (start : piece.kind.InZone piece.side piece.position)
    (reaches : board.reaches piece target = true)
    (spared : ∀ side, board.holdsGeneral side target = false) :
    piece.kind.InZone piece.side target := by
  have byKind := ((Bool.and_eq_true _ _).mp reaches).2
  revert start byKind
  cases piece.kind with
  | general => exact fun _ byKind => inPalace_of_generalReaches byKind spared
  | advisor => exact fun start byKind => mem_advisorPoints_of_advisorReaches start byKind
  | elephant => exact fun start byKind => mem_elephantPoints_of_elephantReaches start byKind
  | pawn => exact fun start byKind => isPawnPoint_of_pawnReaches start byKind
  | horse => exact fun _ _ => trivial
  | chariot => exact fun _ _ => trivial
  | cannon => exact fun _ _ => trivial

/-- Every piece of the kind stands in its zone. -/
def KindZoned (board : Board) (kind : Kind) : Prop :=
  ∀ sq piece, board.pieceOn sq = some piece → piece.kind = kind → piece.kind.InZone piece.side sq

/-- Every piece stands in its zone. -/
def Zoned (board : Board) : Prop :=
  ∀ sq piece, board.pieceOn sq = some piece → piece.kind.InZone piece.side sq

theorem zoned_opening (rules : Rules) : (opening rules).Zoned := by
  have everywhere : ∀ sq ∈ Square.all, ((opening rules).pieceOn sq).all fun piece =>
      piece.kind.InZone piece.side sq := by
    obtain ⟨legBlocking⟩ := rules
    cases legBlocking <;> decide +kernel
  intro sq piece stands
  have here := everywhere sq (Square.mem_all sq)
  rw [stands] at here
  exact of_decide_eq_true here

end Board

namespace Game

variable {game : Game} {piece : Piece} {source target : Square}

/-- A move keeps the pieces of a kind in their zones, whatever the other kinds do. -/
theorem Sound.kindZoned_carry (sound : game.Sound) (may : game.MayMove piece source target)
    {kind : Kind} (zoned : game.board.KindZoned kind) :
    (game.board.carry source target).KindZoned kind := by
  intro sq other stands isKind
  rw [Board.pieceOn_carry may.stands] at stands
  by_cases onTarget : sq = target
  · rw [if_pos onTarget] at stands
    cases stands
    have start := zoned source piece may.stands isKind
    rw [← sound.wellFormed.inPlace source piece may.stands] at start
    have reached : piece.kind.InZone piece.side target :=
      Board.inZone_of_reaches start may.reaches
        (sound.holdsGeneral_eq_false may.stands may.owned may.reaches)
    rw [onTarget]
    exact reached
  · rw [if_neg onTarget] at stands
    by_cases onSource : sq = source
    · simp [onSource] at stands
    · rw [if_neg onSource] at stands
      exact zoned sq other stands isKind

theorem Sound.zoned_carry (sound : game.Sound) (may : game.MayMove piece source target)
    (zoned : game.board.Zoned) : (game.board.carry source target).Zoned := by
  intro sq other stands
  have ofKind : game.board.KindZoned other.kind := fun slot piece placed _ => zoned slot piece placed
  exact sound.kindZoned_carry may ofKind sq other stands rfl

/-- In every game from the opening, whoever moves first and whether or not horses can be blocked,
all pieces stay in their zones. -/
theorem zones_from_opening (settings : Settings) (actions : List Action) :
    let board := ((Game.opening settings).run actions).board
    ∀ sq piece, board.pieceOn sq = some piece → piece.kind.InZone piece.side sq :=
  (Begun.opening settings).sound.board_run Board.Zoned Sound.zoned_carry
    (Board.zoned_opening settings.rules) actions

/-- Two pawns meet at the river, and a red elephant goes to the middle of its bank. -/
theorem zones_from_opening_elephant :
    let board := ((Game.opening { firstToMove := .black }).run
      [.move ⟨3, 0⟩ ⟨4, 0⟩, .move ⟨9, 2⟩ ⟨7, 4⟩, .move ⟨4, 0⟩ ⟨5, 0⟩]).board
    board.pieceOn ⟨7, 4⟩ = some ⟨.elephant, .red, ⟨7, 4⟩⟩ ∧
      Kind.elephant.InZone .red ⟨7, 4⟩ := by
  intro board
  have stands : board.pieceOn ⟨7, 4⟩ = some ⟨.elephant, .red, ⟨7, 4⟩⟩ := by
    decide +kernel
  exact ⟨stands, zones_from_opening { firstToMove := .black }
    [.move ⟨3, 0⟩ ⟨4, 0⟩, .move ⟨9, 2⟩ ⟨7, 4⟩, .move ⟨4, 0⟩ ⟨5, 0⟩] _ _ stands⟩

end Game

end Xiangqi
