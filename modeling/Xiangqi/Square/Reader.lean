import Xiangqi.Fault
import Xiangqi.Text.Blank
import Xiangqi.Text.Numeral

/-!
# Squares from outside

Coordinates that come from outside are 32-bit integers and are checked against the board. In text, a
square is a row and a column with a comma between them. White space may surround the whole and each
number, and any number of parentheses may open and close the text, not necessarily in pairs.
-/

namespace Xiangqi.Square

/-- The square at the given coordinates, or the error that they leave the board. -/
def locate (row col : Int32) : Except SetupError Square :=
  match ofCoords? row.toInt col.toInt with
  | some sq => .ok sq
  | none => .error (.outOfBounds row col)

/-- The text without surrounding white space and without parentheses around the rest. -/
def unwrap (text : List Char) : List Char :=
  let opened := (Text.trim text).dropWhile (· == '(')
  (opened.reverse.dropWhile (· == ')')).reverse

/-- The two numbers of a written square, whether or not they lie on the board. -/
def coordinates? (text : List Char) : Option (Int32 × Int32) :=
  let inner := unwrap text
  match inner.dropWhile (· != ',') with
  | [] => none
  | _ :: afterComma => do
    let row ← Text.int32? (Text.trim (inner.takeWhile (· != ',')))
    let col ← Text.int32? (Text.trim afterComma)
    return (row, col)

/-- The square that a text names. A text without two numbers is malformed; two numbers that leave
the board are reported as coordinates. -/
def read (text : String) : Except SetupError Square :=
  match coordinates? text.toList with
  | some (row, col) => locate row col
  | none => .error (.malformedSquare text)

end Xiangqi.Square
