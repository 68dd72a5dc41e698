import Xiangqi.Board.Diagram
import Xiangqi.Proofs.Text.Lines

/-!
# What the diagram of a board shows

A square is drawn by one character, and `Board.Drawn` says by which: no two kinds or sides share one, and
none of them is the mark of a free square. The cell of a square has a fixed place in its line, and no line
feed hides inside a line, so the diagram can be read back square by square. It shows which kind and side
stand on each square, and nothing else of a board: not where a piece believes to stand, and not the rules.
-/

namespace Xiangqi

/-- A piece as it appears on the diagram: its kind and its side. -/
def Piece.look (piece : Piece) : Kind × Side :=
  (piece.kind, piece.side)

theorem Kind.smallLetter_eq (kind : Kind) : kind.smallLetter = kind.letter.toLower := by
  cases kind <;> decide

namespace Board

/-- The character that stands for the contents of a square: the letter of the kind, upper case for Red and
lower case for Black, or a point if nothing stands there. -/
inductive Drawn : Option Piece → Char → Prop
  | free : Drawn none '.'
  | red {piece : Piece} (owned : piece.side = .red) : Drawn (some piece) piece.kind.letter
  | black {piece : Piece} (owned : piece.side = .black) :
      Drawn (some piece) piece.kind.letter.toLower

variable {board a b : Board} {sq : Square} {content other : Option Piece} {glyph : Char}
  {line : List Char}

theorem Drawn.ne_lineFeed (drawn : Drawn content glyph) : glyph ≠ '\n' := by
  cases drawn with
  | free => decide
  | @red piece owned => cases piece.kind <;> decide
  | @black piece owned => cases piece.kind <;> decide

/-- The character tells what is drawn. -/
theorem Drawn.look_eq (drawn : Drawn content glyph) (alsoDrawn : Drawn other glyph) :
    content.map Piece.look = other.map Piece.look := by
  have points (kind : Kind) : kind.letter ≠ '.' ∧ kind.letter.toLower ≠ '.' := by
    cases kind <;> decide
  have apart (first second : Kind) : first.letter ≠ second.letter.toLower := by
    rw [← Kind.smallLetter_eq]
    exact Kind.letter_ne_smallLetter first second
  generalize same : glyph = glyph' at alsoDrawn
  cases drawn with
  | free =>
    cases alsoDrawn with
    | free => rfl
    | red owned => exact absurd same.symm (points _).1
    | black owned => exact absurd same.symm (points _).2
  | red owned =>
    cases alsoDrawn with
    | free => exact absurd same (points _).1
    | red alsoOwned => simp [Piece.look, owned, alsoOwned, Kind.letter_injective same]
    | black alsoOwned => exact absurd same (apart _ _)
  | black owned =>
    cases alsoDrawn with
    | free => exact absurd same (points _).2
    | red alsoOwned => exact absurd same.symm (apart _ _)
    | black alsoOwned =>
      rw [← Kind.smallLetter_eq, ← Kind.smallLetter_eq] at same
      simp [Piece.look, owned, alsoOwned, Kind.smallLetter_injective same]

theorem drawn_glyphOn (board : Board) (sq : Square) :
    Drawn (board.pieceOn sq) (board.glyphOn sq) := by
  unfold glyphOn
  cases board.pieceOn sq with
  | none => exact .free
  | some piece =>
    cases owned : piece.side with
    | red => simpa [Piece.glyph, owned] using Drawn.red owned
    | black => simpa [Piece.glyph, owned, Kind.smallLetter_eq] using Drawn.black owned

theorem glyphOn_eq_iff :
    a.glyphOn sq = b.glyphOn sq ↔
      (a.pieceOn sq).map Piece.look = (b.pieceOn sq).map Piece.look := by
  constructor
  · intro same
    have drawn := drawn_glyphOn a sq
    rw [same] at drawn
    exact drawn.look_eq (drawn_glyphOn b sq)
  · intro same
    unfold glyphOn
    cases standsA : a.pieceOn sq with
    | none =>
      cases standsB : b.pieceOn sq with
      | none => rfl
      | some piece => simp [standsA, standsB] at same
    | some piece =>
      cases standsB : b.pieceOn sq with
      | none => simp [standsA, standsB] at same
      | some second =>
        simp only [standsA, standsB, Option.map_some, Option.some.injEq, Piece.look,
          Prod.mk.injEq] at same
        simp [Piece.glyph, same.1, same.2]

/-! ## Lines and cells -/

/-- In a row of cells every second character is a blank, and the others are those of the cells. -/
theorem getElem?_cells {α : Type} (mark : α → Char) (items : List α) (i : Nat) :
    (items.flatMap fun item => [' ', mark item])[2 * i]? = items[i]?.map (fun _ => ' ') ∧
      (items.flatMap fun item => [' ', mark item])[2 * i + 1]? = items[i]?.map mark := by
  induction items generalizing i with
  | nil => simp
  | cons item rest ih =>
    cases i with
    | zero => simp
    | succ i =>
      have shift : 2 * (i + 1) = 2 * i + 2 := by omega
      simpa [shift] using ih i

theorem getElem?_finRange {n : Nat} (i : Fin n) : (List.finRange n)[i.val]? = some i := by
  rw [List.getElem?_eq_getElem (by simp), List.getElem_finRange]
  rfl

theorem length_rowLine (board : Board) (row : Fin 10) : (board.rowLine row).length = 20 := by
  simp [rowLine, List.length_flatMap]

/-- The cell of a square in the line of its row. -/
theorem getElem?_rowLine (board : Board) (row : Fin 10) (col : Fin 9) :
    (board.rowLine row)[2 + 2 * col.val]? = some ' ' ∧
      (board.rowLine row)[3 + 2 * col.val]? = some (board.glyphOn ⟨row, col⟩) := by
  obtain ⟨blank, mark⟩ := getElem?_cells (fun col => board.glyphOn ⟨row, col⟩) (List.finRange 9) col
  have before : 2 + 2 * col.val = 2 * col.val + 2 := by omega
  have behind : 3 + 2 * col.val = 2 * col.val + 1 + 2 := by omega
  rw [getElem?_finRange] at blank mark
  rw [before, behind, rowLine]
  exact ⟨blank, mark⟩

theorem rowLine_eq_iff {row : Fin 10} :
    a.rowLine row = b.rowLine row ↔ ∀ col, a.glyphOn ⟨row, col⟩ = b.glyphOn ⟨row, col⟩ := by
  constructor
  · intro same col
    have cell := (getElem?_rowLine a row col).2
    rw [same, (getElem?_rowLine b row col).2] at cell
    exact (Option.some.inj cell).symm
  · intro same
    simp only [rowLine, same]

theorem diagramLines_eq_iff :
    a.diagramLines = b.diagramLines ↔ ∀ row, a.rowLine row = b.rowLine row := by
  simp [diagramLines]

theorem unbroken_of_mem_diagramLines (board : Board) (member : line ∈ board.diagramLines) :
    '\n' ∉ line := by
  rw [diagramLines, List.mem_append, List.mem_map, List.mem_singleton] at member
  cases member with
  | inl row =>
    obtain ⟨row, -, same⟩ := row
    subst same
    have number : Nat.digitChar row.val ≠ '\n' :=
      Text.ne_lineFeed_of_solid (Text.isBlank_digitChar _)
    have glyphs (col : Fin 9) : board.glyphOn ⟨row, col⟩ ≠ '\n' :=
      (drawn_glyphOn board _).ne_lineFeed
    simp [rowLine, number.symm, fun col => (glyphs col).symm]
  | inr last =>
    subst last
    decide

/-- Cut at its line feeds, the diagram gives its lines again. -/
theorem split_diagram (board : Board) :
    Text.split (· == '\n') board.diagram.toList = board.diagramLines := by
  have written : board.diagram.toList = ['\n'].intercalate board.diagramLines := by
    rw [diagram, String.toList_intercalate, List.map_map]
    have same : String.toList ∘ String.ofList = id := funext fun _ => String.toList_ofList
    rw [same, List.map_id]
    rfl
  have some_line : board.diagramLines ≠ [] := by simp [diagramLines]
  rw [written]
  exact Text.split_intercalate_lines some_line fun _ => board.unbroken_of_mem_diagramLines

theorem diagram_eq_iff : a.diagram = b.diagram ↔ a.diagramLines = b.diagramLines := by
  constructor
  · intro same
    rw [← split_diagram a, same, split_diagram b]
  · intro same
    rw [diagram, same, diagram]

/-- Two boards have the same diagram exactly if the same kind and side, or nothing, stands on each of their
squares. The diagram has eleven lines. The first ten have the number of their row in front, and two
characters for each column, a blank and what is drawn for the square; the last numbers the columns. -/
theorem diagram_tells_position (a b : Board) :
    (a.diagram = b.diagram ↔
      ∀ sq, (a.pieceOn sq).map Piece.look = (b.pieceOn sq).map Piece.look) ∧
    let lines := Text.split (· == '\n') a.diagram.toList
    lines.length = 11 ∧
    (∀ row : Fin 10, ∃ written, lines[row.val]? = some written ∧ written.length = 20 ∧
      written[0]? = some (Nat.digitChar row.val) ∧ written[1]? = some ' ' ∧
      ∀ col : Fin 9, written[2 + 2 * col.val]? = some ' ' ∧
        ∃ glyph, written[3 + 2 * col.val]? = some glyph ∧ Drawn (a.pieceOn ⟨row, col⟩) glyph) ∧
    lines[10]? = some "   0 1 2 3 4 5 6 7 8".toList := by
  refine ⟨?_, ?_⟩
  · rw [diagram_eq_iff, diagramLines_eq_iff]
    simp only [rowLine_eq_iff, glyphOn_eq_iff]
    exact ⟨fun same sq => same sq.row sq.col, fun same row col => same ⟨row, col⟩⟩
  · intro lines
    have shape : lines = (List.finRange 10).map a.rowLine ++ [columnLine] := split_diagram a
    refine ⟨by simp [shape], ?_, ?_⟩
    · intro row
      refine ⟨a.rowLine row, ?_, a.length_rowLine row, rfl, rfl, ?_⟩
      · rw [shape, List.getElem?_append_left (by simp), List.getElem?_map, getElem?_finRange,
          Option.map_some]
      · intro col
        obtain ⟨blank, mark⟩ := a.getElem?_rowLine row col
        exact ⟨blank, _, mark, drawn_glyphOn a _⟩
    · rw [shape, List.getElem?_append_right (by simp), List.length_map, List.length_finRange]
      decide

end Board

end Xiangqi
