import Xiangqi.Proofs.Listing
import Xiangqi.Proofs.MoveSearch
import Xiangqi.Proofs.Notation.Characters
import Xiangqi.Proofs.Symmetry.Legality
import Xiangqi.Proofs.Symmetry.Notation

/-!
# Left and right

The mirror image of a position, in which left and right are exchanged, is judged like the position
itself: pieces reach the images of the squares they reached, the same sides are in check, the same
sides may move, and the legal moves are the images of the legal moves. Only the numbers of files
change in the text of a move: file `f` becomes file `10 - f`.
-/

namespace Xiangqi

namespace Symmetry

/-- The mirror image. -/
def leftRight : Symmetry := ⟨false, true⟩

/-- The mirror image takes column `c` to column `8 - c` of the same row. -/
theorem leftRight_square (sq : Square) : leftRight.square sq = ⟨sq.row, sq.col.rev⟩ := rfl

@[simp] theorem leftRight_side (side : Side) : leftRight.side side = side := rfl

/-- The image of a move. -/
def move (s : Symmetry) (move : Move) : Move :=
  ⟨s.square move.source, s.square move.target⟩

variable (s : Symmetry) {board : Board} {side : Side}

@[simp] theorem move_move (move : Move) : s.move (s.move move) = move := by
  simp [Symmetry.move]

theorem inCheck_board (wellFormed : board.WellFormed) (side : Side) :
    (s.board board).inCheck (s.side side) = board.inCheck side := by
  have image := s.wellFormed_board wellFormed
  obtain ⟨home, sole⟩ := wellFormed.exists_soleGeneral side
  rw [image.inPlace.inCheck_eq (image.hasGeneral _), s.inDanger_board wellFormed.inPlace sole,
    wellFormed.inPlace.inCheck_eq (wellFormed.hasGeneral side)]

theorem canMove_board (wellFormed : board.WellFormed) (side : Side) :
    (s.board board).canMove (s.side side) = board.canMove side := by
  have image := s.wellFormed_board wellFormed
  rw [image.inPlace.canMove_eq (image.hasGeneral _), s.movable_board wellFormed,
    wellFormed.inPlace.canMove_eq (wellFormed.hasGeneral side)]

/-- A move is listed for the image side exactly when its image is listed for the side. -/
theorem mem_legalMoves_board_iff (wellFormed : board.WellFormed) {moves images : List Move}
    (listed : board.legalMoves side = .ok moves)
    (imagesListed : (s.board board).legalMoves (s.side side) = .ok images) (move : Move) :
    move ∈ images ↔ s.move move ∈ moves := by
  have image := s.wellFormed_board wellFormed
  have listing : s.move move ∈ moves ↔ _ :=
    wellFormed.inPlace.mem_legalMoves_iff (wellFormed.hasGeneral side) listed
  have imageListing : move ∈ images ↔ _ :=
    image.inPlace.mem_legalMoves_iff (image.hasGeneral (s.side side)) imagesListed
  rw [listing]
  apply imageListing.trans
  constructor
  · intro found
    obtain ⟨other, stands, owned, allowed⟩ := found
    rw [pieceOn_board, Option.map_eq_some_iff] at stands
    obtain ⟨piece, original, same⟩ := stands
    subst same
    rw [piece_side, side_eq_iff] at owned
    rw [← s.square_square move.target, s.allows_board wellFormed original] at allowed
    exact ⟨piece, original, owned, allowed⟩
  · intro found
    obtain ⟨piece, stands, owned, allowed⟩ := found
    refine ⟨s.piece piece, ?_, ?_, ?_⟩
    · rw [pieceOn_board, stands, Option.map_some]
    · rw [piece_side, owned]
    · rw [← s.square_square move.target, s.allows_board wellFormed stands]
      exact allowed

/-- The legal moves on the image of a board are the images of the legal moves, in another order. -/
theorem legalMoves_board_perm (wellFormed : board.WellFormed) (side : Side) :
    ∃ moves images, board.legalMoves side = .ok moves ∧
      (s.board board).legalMoves (s.side side) = .ok images ∧ images.Perm (moves.map s.move) := by
  have image := s.wellFormed_board wellFormed
  have listed := wellFormed.inPlace.legalMoves_eq (wellFormed.hasGeneral side)
  have imagesListed := image.inPlace.legalMoves_eq (image.hasGeneral (s.side side))
  refine ⟨_, _, listed, imagesListed, ?_⟩
  have injective : Function.Injective s.move := by
    intro first second same
    rw [← s.move_move first, same, s.move_move]
  have distinct := (wellFormed.inPlace.nodup_listing side).map injective
  have imagesDistinct := image.inPlace.nodup_listing (s.side side)
  apply (List.perm_ext_iff_of_nodup imagesDistinct distinct).mpr
  intro move
  rw [s.mem_legalMoves_board_iff wellFormed listed imagesListed, List.mem_map]
  constructor
  · intro member
    exact ⟨s.move move, member, s.move_move move⟩
  · intro found
    obtain ⟨original, member, same⟩ := found
    subst same
    rw [s.move_move]
    exact member

end Symmetry

namespace LeftRight

open Notation Symmetry

/-- The number of a file counted from the other hand. A sign of place, `+` or `-`, is no number and
stays. -/
def otherHand (c : Char) : Char :=
  if c.isDigit then Nat.digitChar (10 - (c.toNat - '0'.toNat)) else c

/-- The letters of the kinds whose moves always end with the file they go to. -/
def fileLetters : List Char := ['A', 'E', 'H', 'a', 'e', 'h']

/-- The text of a move with its files counted from the other hand: the file it comes from, if it names
one, and the last character, if it is a file, as it is for a move sideways and for some kinds. -/
def text (text : String) : String :=
  match text.toList with
  | [letter, origin, course, operand] =>
    let names := course = '.' ∨ letter ∈ fileLetters
    String.ofList [letter, otherHand origin, course, if names then otherHand operand else operand]
  | _ => text

variable (board : Board) (piece : Piece) (source target : Square)

theorem otherHand_digitChar {file : Nat} (positive : 1 ≤ file) (small : file ≤ 9) :
    otherHand (Nat.digitChar file) = Nat.digitChar (10 - file) := by
  have each : ∀ file < 10, 1 ≤ file → otherHand (Nat.digitChar file) = Nat.digitChar (10 - file) := by
    decide
  exact each file (by omega) positive

/-- The file of the image, as the same side counts, is the file counted from the other hand. -/
theorem digitChar_fileNumber_square (sq : Square) (side : Side) :
    Nat.digitChar (fileNumber (leftRight.square sq) side) =
      otherHand (Nat.digitChar (fileNumber sq side)) := by
  obtain ⟨positive, small⟩ := fileNumber_bounds sq side
  have image := leftRight.fileNumber_square sq side
  have one : ¬ leftRight.swap = leftRight.mirror := by decide
  rw [leftRight_side, if_neg one] at image
  rw [image, otherHand_digitChar positive small]

theorem origin_board :
    origin (leftRight.board board) (leftRight.piece piece) (leftRight.square source) =
      otherHand (origin board piece source) := by
  unfold origin
  simp only [length_sharers_board, all_sharers_board]
  rw [piece_side, leftRight_side, digitChar_fileNumber_square]
  by_cases shared : (sharers board piece source).length = 2
  · rw [if_pos shared, if_pos shared]
    by_cases front : (sharers board piece source).all fun other =>
        0 ≤ gain piece.side other.position source
    · rw [if_pos front]
      decide
    · rw [if_neg front]
      decide
  · rw [if_neg shared, if_neg shared]

theorem glyph_mem_fileLetters_iff : piece.glyph ∈ fileLetters ↔ namesFile piece.kind = true := by
  unfold Piece.glyph
  cases piece.side <;> cases piece.kind <;> decide

theorem operand_board :
    operand (leftRight.piece piece) (leftRight.square source) (leftRight.square target) =
      if course (gain piece.side source target) = '.' ∨ piece.glyph ∈ fileLetters then
        otherHand (operand piece source target)
      else operand piece source target := by
  have gained := leftRight.gain_square source target piece.side
  rw [leftRight_side] at gained
  unfold operand
  rw [piece_side, leftRight_side, gained, piece_kind, digitChar_fileNumber_square]
  simp only [course_eq_sideways_iff, glyph_mem_fileLetters_iff]
  by_cases names : namesFile piece.kind = true
  · simp [names]
  · by_cases sideways : gain piece.side source target = 0
    · simp [sideways]
    · simp [names, sideways]

/-- The image of a move is written like the move, with the files counted from the other hand. -/
theorem describe?_board :
    describe? (leftRight.board board) (leftRight.square source) (leftRight.square target) =
      (describe? board source target).map text := by
  unfold describe?
  rw [pieceOn_board_square]
  cases board.pieceOn source with
  | none => rfl
  | some piece =>
    have gained := leftRight.gain_square source target piece.side
    rw [leftRight_side] at gained
    have glyph : (leftRight.piece piece).glyph = piece.glyph := rfl
    simp only [Option.map_some, write, origin_board, operand_board, piece_side, leftRight_side,
      gained, glyph, text, String.toList_ofList]

/-- Left and right are treated alike. The mirror image of a board with one general for each side can be
built as well, and holds the image of each piece under the same rules. Any piece, on the board or not,
reaches there the images of the squares it reaches here. Each side is in check, may move and has lost
there exactly if it is and does here, its legal moves are the images of its legal moves, and each move is
written with its files counted from the other hand. -/
theorem left_right_symmetric {board : Board} (built : board.Built)
    (oneGeneral : ∀ side, board.generalCount side = 1) :
    let image := leftRight.board board
    (image.Built ∧ image.rules = board.rules ∧
      ∀ sq, image.pieceOn (leftRight.square sq) = (board.pieceOn sq).map leftRight.piece) ∧
    (∀ piece target, image.reaches (leftRight.piece piece) (leftRight.square target) =
      board.reaches piece target) ∧
    (∀ side, image.inCheck side = board.inCheck side ∧ image.canMove side = board.canMove side ∧
      image.verdict side = board.verdict side ∧
      ∃ moves images, board.legalMoves side = .ok moves ∧ image.legalMoves side = .ok images ∧
        images.Perm (moves.map leftRight.move)) ∧
    ∀ source target, describe? image (leftRight.square source) (leftRight.square target) =
      (describe? board source target).map text := by
  intro image
  have wellFormed : board.WellFormed := ⟨built.inPlace, oneGeneral⟩
  refine ⟨⟨leftRight.built_board built, rfl, ?_⟩, ?_, ?_, ?_⟩
  · intro sq
    exact leftRight.pieceOn_board_square board sq
  · intro piece target
    exact leftRight.reaches_board board piece target
  · intro side
    have able : image.canMove side = board.canMove side := leftRight.canMove_board wellFormed side
    refine ⟨leftRight.inCheck_board wellFormed side, able, ?_,
      leftRight.legalMoves_board_perm wellFormed side⟩
    rw [Board.verdict, able, Board.verdict]
  · intro source target
    exact describe?_board board source target

/-- Red's horse may go to the edge, and its image to the other edge; the rear one of Red's cannons moves
along the river; and Black, whose general the chariot attacks, is in check. -/
theorem left_right_symmetric_tandem :
    ∃ board : Board, board.Built ∧ (∀ side, board.generalCount side = 1) ∧
      let image := leftRight.board board
      image.inCheck .black = .ok true ∧
      describe? board ⟨9, 1⟩ ⟨7, 0⟩ = some "H8+9" ∧
      describe? image ⟨9, 7⟩ ⟨7, 8⟩ = some "H2+1" ∧
      describe? board ⟨7, 2⟩ ⟨7, 5⟩ = some "C-.4" ∧
      describe? image ⟨7, 6⟩ ⟨7, 3⟩ = some "C-.6" ∧
      ∃ moves images, board.legalMoves .red = .ok moves ∧ image.legalMoves .red = .ok images ∧
        images.Perm (moves.map leftRight.move) ∧
        ⟨⟨9, 1⟩, ⟨7, 0⟩⟩ ∈ moves ∧ ⟨⟨9, 7⟩, ⟨7, 8⟩⟩ ∈ images := by
  have seen : (Board.ofPlacement [⟨.general, .red, 9, 4⟩, ⟨.general, .black, 0, 3⟩,
      ⟨.horse, .red, 9, 1⟩, ⟨.cannon, .red, 7, 2⟩, ⟨.cannon, .red, 5, 2⟩,
      ⟨.chariot, .red, 4, 3⟩] {}).toOption.map (fun board =>
        ((board.inCheck .black).toOption, describe? board ⟨9, 1⟩ ⟨7, 0⟩,
          describe? board ⟨7, 2⟩ ⟨7, 5⟩, board.pieceOn ⟨9, 1⟩,
          board.allows ⟨.horse, .red, ⟨9, 1⟩⟩ ⟨7, 0⟩)) =
      some (some true, some "H8+9", some "C-.4", some ⟨.horse, .red, ⟨9, 1⟩⟩, true) := by
    decide +kernel
  obtain ⟨board, placed, looked⟩ := Fallible.exists_ok_of_map_eq_some seen
  simp only [Prod.mk.injEq] at looked
  obtain ⟨check, horse, cannon, stands, allowed⟩ := looked
  have built : board.Built := .ofPlacement placed
  have wellFormed := Board.wellFormed_of_ofPlacement placed
  have oneGeneral := wellFormed.oneGeneral
  obtain ⟨-, -, judged, written⟩ := left_right_symmetric built oneGeneral
  have inCheck := Fallible.eq_ok_of_toOption_eq_some check
  have horseImage := written ⟨9, 1⟩ ⟨7, 0⟩
  have cannonImage := written ⟨7, 2⟩ ⟨7, 5⟩
  rw [horse] at horseImage
  rw [cannon] at cannonImage
  obtain ⟨moves, images, legal, legalImages, images_perm⟩ := (judged .red).2.2.2
  have listed : ⟨⟨9, 1⟩, ⟨7, 0⟩⟩ ∈ moves :=
    (wellFormed.inPlace.mem_legalMoves_iff (wellFormed.hasGeneral .red) legal).mpr
      ⟨_, stands, rfl, allowed⟩
  have imageListed : ⟨⟨9, 7⟩, ⟨7, 8⟩⟩ ∈ images :=
    images_perm.mem_iff.mpr (List.mem_map_of_mem listed)
  refine ⟨board, built, oneGeneral, ?_, horse, ?_, cannon, ?_, moves, images, legal, legalImages,
    images_perm, listed, imageListed⟩
  · exact (judged .black).1.trans inCheck
  · exact horseImage.trans (by decide +kernel)
  · exact cannonImage.trans (by decide +kernel)

end LeftRight

end Xiangqi
