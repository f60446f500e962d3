import GridChess.Kind
import GridChess.Position

/-!
# Pieces and boards

A board is a list of pieces and the colour to move. Boards are values: a move builds the next
board, whose last piece is the one that moved. Callers keep pieces on different cells.
-/

set_option autoImplicit false

namespace GridChess

structure Piece where
  kind : Kind
  colour : Colour
  position : Position
  deriving DecidableEq, Repr

structure Board where
  pieces : List Piece
  turn : Colour
  deriving DecidableEq, Repr

namespace Board

/-- The first piece on the cell. No piece is ever found on `invalid`. -/
def at? (board : Board) (p : Position) : Option Piece :=
  board.pieces.find? (·.position.sameCell p)

def isOccupied (board : Board) (p : Position) : Bool := (board.at? p).isSome

def size (board : Board) : Nat := board.pieces.length

/-- Takes the pieces off both cells and puts the one that stood on `origin` on `target`, as the
last piece. No rule is checked. -/
def relocate (board : Board) (origin target : Position) (turn : Colour) : Board where
  pieces :=
    board.pieces.filter (fun piece =>
      !piece.position.sameCell origin && !piece.position.sameCell target) ++
    ((board.at? origin).map fun piece => { piece with position := target }).toList
  turn := turn

end Board

end GridChess
