import Xiangqi.Main
import Xiangqi.Settings.Json
import Xiangqi.Proofs.Board.Carry
import Xiangqi.Proofs.Board.Built
import Xiangqi.Proofs.Board.Entries
import Xiangqi.Proofs.Legality
import Xiangqi.Proofs.Play
import Xiangqi.Proofs.Run
import Xiangqi.Proofs.KingSafety
import Xiangqi.Proofs.Listing
import Xiangqi.Proofs.History
import Xiangqi.Proofs.Ending
import Xiangqi.Proofs.Zones
import Xiangqi.Proofs.Board.Line
import Xiangqi.Proofs.FacingGenerals
import Xiangqi.Proofs.Material
import Xiangqi.Proofs.Text.Decimal
import Xiangqi.Proofs.Text.Lines
import Xiangqi.Proofs.Text.Trim
import Xiangqi.Proofs.Json.Lexemes
import Xiangqi.Proofs.Json.Spelling
import Xiangqi.Proofs.Json.Number
import Xiangqi.Proofs.Json.Layout
import Xiangqi.Proofs.Json.Record
import Xiangqi.Proofs.Placement.Forms
import Xiangqi.Proofs.Placement.RoundTrip
import Xiangqi.Proofs.Resume
import Xiangqi.Proofs.Symmetry.Square
import Xiangqi.Proofs.Symmetry.Board
import Xiangqi.Proofs.Symmetry.Reach
import Xiangqi.Proofs.Symmetry.Legality
import Xiangqi.Proofs.Symmetry.Notation
import Xiangqi.Proofs.Symmetry.HalfTurn
import Xiangqi.Proofs.Console.Command
import Xiangqi.Proofs.Console.Reply
import Xiangqi.Proofs.Console.Wording
import Xiangqi.Proofs.Console.Framing
import Xiangqi.Proofs.Console.Dialogue
import Xiangqi.Proofs.Text.Words
import Xiangqi.Proofs.Console.Effect
import Xiangqi.Proofs.Square.Reader
import Xiangqi.Proofs.Console.Log
import Xiangqi.Proofs.Program
import Xiangqi.Proofs.Board.Ray
import Xiangqi.Proofs.Generator
import Xiangqi.Proofs.FlyingGenerals
import Xiangqi.Proofs.Outcome
import Xiangqi.Proofs.ReverseScan
import Xiangqi.Proofs.Board.Order
import Xiangqi.Proofs.MoveSearch
import Xiangqi.Proofs.Symmetry.LeftRight
import Xiangqi.Proofs.Notation.Characters
import Xiangqi.Proofs.Notation.Telling
import Xiangqi.Proofs.Notation.Distinct
import Xiangqi.Proofs.Placement.Acceptance
import Xiangqi.Proofs.TakingBack
import Xiangqi.Proofs.Turns
import Xiangqi.Proofs.Board.Diagram
import Xiangqi.Proofs.Board.Operations
import Xiangqi.Proofs.Settings.Overlay
import Xiangqi.Proofs.Board.Walk
