import GridChess.RuleSet

/-!
# The hyper-board

Six cells along each of four axes. White sets up around the corner where `z` and `w` are zero,
and black opposite. How pieces move on it is not settled, so no move is legal.
-/

set_option autoImplicit false

namespace GridChess.RuleSet.Hyper

def name : String := "Chesseract"

/-- Officers of the plane that holds the king. -/
def kingRow : List Kind := [.rook, .knight, .bishop, .king, .queen, .rook]

/-- Officers of the other home planes. -/
def sideRow : List Kind := [.rook, .knight, .bishop, .queen, .knight, .rook]

/-- Planes, as `z` and `w`, that hold a row of officers and a row of pawns. -/
def homePlanes : List (Int × Int) := [(0, 0), (1, 0), (0, 1), (1, 1)]

/-- Planes that hold a short row of pawns. -/
def outpostPlanes : List (Int × Int) := [(2, 0), (0, 2)]

def homePlane (plane : Int × Int) : List Piece :=
  let officers := if plane = (0, 0) then kingRow else sideRow
  (officers.zipIdx.map fun (kind, x) =>
    { kind, colour := .white, position := .hyper x 0 plane.1 plane.2 }) ++
  (Position.axis Position.hyperSize).map fun x =>
    { kind := .pawn, colour := .white, position := .hyper x 1 plane.1 plane.2 }

def outpost (plane : Int × Int) : List Piece :=
  [1, 2, 3, 4].map fun x =>
    { kind := .pawn, colour := .white, position := .hyper x 0 plane.1 plane.2 }

def whitePieces : List Piece := homePlanes.flatMap homePlane ++ outpostPlanes.flatMap outpost

/-- The cell across the centre of the board, on the same `x`. -/
def across : Position → Position
  | .hyper x y z w => .hyper x (5 - y) (5 - z) (5 - w)
  | p => p

def blackPieces : List Piece :=
  whitePieces.map fun piece => { piece with colour := .black, position := across piece.position }

def defaultBoard : Board where
  pieces := whitePieces ++ blackPieces
  turn := .white

/-- All cells; `x` changes fastest and `w` slowest. -/
def cells : List Position :=
  let axis := Position.axis Position.hyperSize
  axis.flatMap fun w => axis.flatMap fun z => axis.flatMap fun y => axis.map fun x =>
    .hyper x y z w

def canMove (_board : Board) (_piece : Piece) (_target : Position) : Bool := false

end GridChess.RuleSet.Hyper

namespace GridChess.RuleSet

/-- The rules of the hyper-board. -/
def hyper : RuleSet where
  name := Hyper.name
  defaultBoard := Hyper.defaultBoard
  cells := Hyper.cells
  readPosition? := Position.readHyper?
  canMove := Hyper.canMove

end GridChess.RuleSet
