import Mathlib.Algebra.Order.Group.Multiset
import Xiangqi.Proofs.History

/-!
# Conservation of material

What a piece is does not change in a game: its kind and its side are carried along with it, and it
leaves the board only by being taken. So the kinds and sides on the board, counted with
multiplicity, and those that the history says were taken add up to what stood on the board at the
start. `Board.material_carry` is the account of one move, and `Sound.material_run` that of a run.
-/

namespace Xiangqi

/-- The kinds and sides of pieces, each as often as it occurs. -/
def Piece.tally (pieces : List Piece) : Multiset (Kind × Side) :=
  pieces.map fun piece => (piece.kind, piece.side)

theorem Piece.tally_append (first second : List Piece) :
    tally (first ++ second) = tally first + tally second := by
  rw [tally, List.map_append, ← Multiset.coe_add, tally, tally]

namespace Board

variable {board : Board} {source target : Square} {piece : Piece}

/-- The kinds and sides of the pieces on the board. -/
def material (board : Board) : Multiset (Kind × Side) :=
  Piece.tally board.pieces

theorem card_material (board : Board) : board.material.card = board.pieces.length := by
  rw [material, Piece.tally, Multiset.coe_card, List.length_map]

/-- Whatever is put on a square, the pieces on the other squares are the same. -/
theorem exists_pieces_put_perm (board : Board) (sq : Square) :
    ∃ others, ∀ content, (board.put sq content).pieces.Perm (content.toList ++ others) := by
  refine ⟨(Square.all.erase sq).filterMap board.pieceOn, fun content => ?_⟩
  have elsewhere : (Square.all.erase sq).filterMap (board.put sq content).pieceOn =
      (Square.all.erase sq).filterMap board.pieceOn := by
    apply List.filterMap_congr
    intro other member
    rw [pieceOn_put, if_neg ((Square.nodup_all.mem_erase_iff).mp member).1]
  have split := (List.perm_cons_erase (Square.mem_all sq)).filterMap (board.put sq content).pieceOn
  rw [pieces, ← elsewhere]
  refine split.trans (List.Perm.of_eq ?_)
  rw [List.filterMap_cons, pieceOn_put, if_pos rfl]
  cases content <;> rfl

/-- A square adds to the material what stands on it. -/
theorem exists_material_put (board : Board) (sq : Square) :
    ∃ others, ∀ content, (board.put sq content).material = Piece.tally content.toList + others := by
  obtain ⟨others, perm⟩ := board.exists_pieces_put_perm sq
  refine ⟨Piece.tally others, fun content => ?_⟩
  rw [← Piece.tally_append]
  exact Multiset.coe_eq_coe.mpr ((perm content).map _)

/-- A piece that is carried to another square stays what it is and takes off the board what stood
there. -/
theorem material_carry (stands : board.pieceOn source = some piece) (apart : target ≠ source) :
    board.material =
      (board.carry source target).material + Piece.tally (board.pieceOn target).toList := by
  obtain ⟨others, bySource⟩ := board.exists_material_put source
  have before : board.material = Piece.tally [piece] + others := by
    have whole := bySource (some piece)
    rw [← stands, put_pieceOn, stands] at whole
    exact whole
  obtain ⟨rest, byTarget⟩ := (board.put source none).exists_material_put target
  have after : (board.carry source target).material = Piece.tally [piece] + rest := by
    rw [carry, stands]
    exact byTarget _
  -- The others are what is left on the board once the piece has been lifted.
  have lifted : others = Piece.tally (board.pieceOn target).toList + rest := by
    have whole := byTarget (board.pieceOn target)
    have untouched : (board.put source none).pieceOn target = board.pieceOn target := by
      rw [pieceOn_put, if_neg apart]
    rw [← untouched, put_pieceOn, untouched, bySource none] at whole
    rw [← whole]
    exact (zero_add others).symm
  rw [before, after, lifted, add_assoc, add_comm rest]

end Board

/-- What a record says was taken: a piece of the given kind, the opponent's. -/
def Ply.taken (ply : Ply) : Option (Kind × Side) :=
  ply.captured.map fun kind => (kind, ply.side.opponent)

/-- The record gives the whole difference between two boards: the piece on its source has gone to
its target, what stood there is what it says was taken, and no other square has changed. -/
structure Ply.Accounts (ply : Ply) (before after : Board) : Prop where
  carried : ∃ piece, before.pieceOn ply.source = some piece ∧
    after.pieceOn ply.target = some { piece with position := ply.target }
  vacated : after.pieceOn ply.source = none
  taken : (before.pieceOn ply.target).map (fun piece => (piece.kind, piece.side)) = ply.taken
  others : ∀ sq, sq ≠ ply.source → sq ≠ ply.target → after.pieceOn sq = before.pieceOn sq

namespace Game

variable {game : Game} {piece : Piece} {source target : Square}

/-- The kinds and sides of the pieces that the history says were taken. -/
def taken (game : Game) : Multiset (Kind × Side) :=
  game.plies.filterMap Ply.taken

/-- The record of a move says what was taken: only pieces of the opponent are. -/
theorem MayMove.taken_record (may : game.MayMove piece source target) :
    (game.record piece source target).taken =
      (game.board.pieceOn target).map fun victim => (victim.kind, victim.side) := by
  have captured : (game.record piece source target).captured =
      (game.board.pieceOn target).map Piece.kind := rfl
  rw [Ply.taken, captured, Option.map_map]
  cases stands : game.board.pieceOn target with
  | none => rfl
  | some victim =>
    have foreign := Side.eq_opponent_of_ne (Board.side_ne_of_reaches may.reaches stands)
    rw [Option.map_some, Option.map_some, foreign]
    rfl

theorem MayMove.accounts (may : game.MayMove piece source target) (sound : game.Sound) :
    (game.record piece source target).Accounts game.board (game.board.carry source target) where
  carried := ⟨piece, may.stands, by rw [Board.pieceOn_carry may.stands]; exact if_pos rfl⟩
  vacated := by
    rw [Board.pieceOn_carry may.stands]
    exact (if_neg (may.target_ne sound).symm).trans (if_pos rfl)
  taken := may.taken_record.symm
  others := by
    intro sq notSource notTarget
    rw [Board.pieceOn_carry may.stands]
    exact (if_neg notTarget).trans (if_neg notSource)

/-- An action leaves board and history alone, or adds a record that accounts for the change of the
board. -/
theorem Sound.accounts_act (sound : game.Sound) (action : Action) :
    ((game.act action).2.board = game.board ∧ (game.act action).2.plies = game.plies) ∨
    ∃ ply : Ply, (game.act action).2.plies = game.plies ++ [ply] ∧
      ply.Accounts game.board (game.act action).2.board := by
  rcases game.act_cases action with ⟨error, acted⟩ | ⟨source, target, ply, next, -, played, acted⟩ |
    ⟨winner, -, -, acted⟩
  · rw [acted]
    exact .inl ⟨rfl, rfl⟩
  · obtain ⟨piece, may, rfl, rfl⟩ := sound.play_eq_ok_iff.mp played
    rw [acted]
    exact .inr ⟨_, rfl, may.accounts sound⟩
  · rw [acted]
    exact .inl ⟨rfl, rfl⟩

theorem MayMove.material_moved (may : game.MayMove piece source target) (sound : game.Sound) :
    (game.moved piece source target).board.material + (game.moved piece source target).taken =
      game.board.material + game.taken := by
  have tally : Piece.tally (game.board.pieceOn target).toList =
      ((game.record piece source target).taken.toList : Multiset (Kind × Side)) := by
    rw [may.taken_record, Piece.tally, Option.toList_map]
  have recorded : (game.moved piece source target).taken =
      game.taken + ((game.record piece source target).taken.toList : Multiset (Kind × Side)) := by
    simp only [taken, moved, afterPly, List.filterMap_append, List.filterMap_cons,
      List.filterMap_nil, Multiset.coe_add]
    cases (game.record piece source target).taken <;> rfl
  have board : (game.moved piece source target).board = game.board.carry source target := rfl
  rw [recorded, board, Board.material_carry may.stands (may.target_ne sound), tally, add_assoc,
    add_comm game.taken]

/-- A run only moves material from the board into the history. -/
theorem Sound.material_run (sound : game.Sound) (actions : List Action) :
    (game.run actions).board.material + (game.run actions).taken =
      game.board.material + game.taken := by
  induction actions generalizing game with
  | nil => rfl
  | cons action rest ih =>
    rw [run_cons, ih (sound.act action)]
    rcases game.act_cases action with ⟨error, acted⟩ |
      ⟨source, target, ply, next, -, played, acted⟩ | ⟨winner, -, -, acted⟩
    · rw [acted]
    · obtain ⟨piece, may, -, rfl⟩ := sound.play_eq_ok_iff.mp played
      rw [acted]
      exact may.material_moved sound
    · rw [acted]
      rfl

/-- In every game that a run leads to, the kinds and sides of the pieces on the board and of those
that the history says were taken are together those of the start, so as many pieces are missing as
records tell of a capture. And no action changes the board in a way that its record does not account
for. -/
theorem material_conserved {start : Game} (begun : start.Begun) (actions : List Action) :
    let game := start.run actions
    start.board.material = game.board.material + game.taken ∧
    start.board.pieces.length =
      game.board.pieces.length + game.plies.countP (fun ply => ply.captured.isSome) ∧
    ∀ action, let next := (game.act action).2
      (next.board = game.board ∧ next.plies = game.plies) ∨
      ∃ ply : Ply, next.plies = game.plies ++ [ply] ∧ ply.Accounts game.board next.board := by
  intro game
  have nothing : start.taken = 0 := by
    rw [taken, begun.plies_eq_nil]
    rfl
  have balance : start.board.material = game.board.material + game.taken := by
    have total := begun.sound.material_run actions
    rw [nothing, add_zero] at total
    exact total.symm
  have captures : game.taken.card = game.plies.countP fun ply => ply.captured.isSome := by
    rw [taken, Multiset.coe_card, List.length_filterMap_eq_countP]
    congr 1
    funext ply
    rw [Ply.taken, Option.isSome_map]
  refine ⟨balance, ?_, (begun.sound.run actions).accounts_act⟩
  rw [← Board.card_material, balance, Multiset.card_add, Board.card_material, captures]

/-- Two captures in the opening: a horse and the cannon that took it are off the board. -/
theorem material_conserved_exchange :
    (Game.opening {}).Begun ∧
    let game := (Game.opening {}).run [.move ⟨7, 1⟩ ⟨0, 1⟩, .move ⟨0, 0⟩ ⟨0, 1⟩, .agreeDraw]
    game.taken = {(.horse, .black), (.cannon, .red)} ∧ game.board.pieces.length = 30 ∧
    (Game.opening {}).board.material =
      game.board.material + {(.horse, .black), (.cannon, .red)} := by
  obtain ⟨balance, -⟩ := material_conserved (.opening {})
    [.move ⟨7, 1⟩ ⟨0, 1⟩, .move ⟨0, 0⟩ ⟨0, 1⟩, .agreeDraw]
  have taken : ((Game.opening {}).run
      [.move ⟨7, 1⟩ ⟨0, 1⟩, .move ⟨0, 0⟩ ⟨0, 1⟩, .agreeDraw]).taken =
        {(.horse, .black), (.cannon, .red)} := by
    decide +kernel
  rw [taken] at balance
  exact ⟨.opening {}, taken, by decide +kernel, balance⟩

end Game

end Xiangqi
