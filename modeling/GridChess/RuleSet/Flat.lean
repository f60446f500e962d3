import GridChess.Displacement
import GridChess.RuleSet

/-!
# The flat board

Orthodox pieces on eight files and eight ranks, without castling, promotion, en passant or check.
What a piece may do is decided from its displacement alone, up to two questions about the board:
what stands on the target, and, for sliding moves, whether the cells in between are empty.
-/

set_option autoImplicit false

namespace GridChess.RuleSet.Flat

open Displacement

def name : String := "Boring2D"

def backRank : List Kind :=
  [.rook, .knight, .bishop, .queen, .king, .bishop, .knight, .rook]

/-- The rank that pawns start on and make their double step from. -/
def pawnRank : Colour → Int
  | .white => 1
  | .black => 6

/-- The direction in which pawns move. -/
def forward : Colour → Int
  | .white => 1
  | .black => -1

/-- The kinds on consecutive files of one rank. -/
def row (kinds : List Kind) (colour : Colour) (rank : Int) : List Piece :=
  kinds.zipIdx.map fun (kind, file) => { kind, colour, position := .flat file rank }

def pawns (colour : Colour) : List Piece :=
  row (List.replicate Position.flatSize .pawn) colour (pawnRank colour)

def defaultBoard : Board where
  pieces := row backRank .white 0 ++ pawns .white ++ pawns .black ++ row backRank .black 7
  turn := .white

/-- All cells, rank by rank. -/
def cells : List Position :=
  (Position.axis Position.flatSize).flatMap fun rank =>
    (Position.axis Position.flatSize).map fun file => .flat file rank

/-- What a displacement means to a piece. -/
inductive Manner where
  | impossible
  /-- Allowed whatever lies in between. -/
  | leap
  /-- Allowed if the cells in between are empty. -/
  | slide
  deriving DecidableEq, Repr

def Manner.leapIf (condition : Bool) : Manner := if condition then .leap else .impossible

def Manner.slideIf (condition : Bool) : Manner := if condition then .slide else .impossible

/-- How a pawn on `rank` goes by `dx` files and `dy` ranks. -/
def pawnManner (colour : Colour) (rank dx dy : Int) (captures : Bool) : Manner :=
  if dy * forward colour ≤ 0 then .impossible
  else if captures then .leapIf (dx.natAbs = 1 && dy.natAbs = 1)
  else if dx = 0 && dy.natAbs = 1 then .leap
  else .slideIf (dx = 0 && dy.natAbs = 2 && rank = pawnRank colour)

/-- How a piece goes by `dx` files and `dy` ranks, not both zero. -/
def manner (piece : Piece) (rank dx dy : Int) (captures : Bool) : Manner :=
  match piece.kind with
  | .king => .leapIf (dx.natAbs ≤ 1 && dy.natAbs ≤ 1)
  | .knight =>
    .leapIf ((dx.natAbs = 1 && dy.natAbs = 2) || (dx.natAbs = 2 && dy.natAbs = 1))
  | .queen => .slideIf (isStraight [dx, dy] || isDiagonal [dx, dy])
  | .bishop => .slideIf (isDiagonal [dx, dy])
  | .rook => .slideIf (isStraight [dx, dy])
  | .pawn => pawnManner piece.colour rank dx dy captures

/-- Whether every cell strictly between two flat cells is empty. -/
def isClear (board : Board) (origin target : List Int) : Bool :=
  (between origin target).all fun cell => !board.isOccupied (.ofCoordinates cell)

def canMove (board : Board) (piece : Piece) (target : Position) : Bool :=
  match piece.position, target with
  | .flat file rank, .flat file' rank' =>
    let dx := file' - file
    let dy := rank' - rank
    let occupant := board.at? target
    piece.position.onFlatBoard && target.onFlatBoard && (dx ≠ 0 || dy ≠ 0) &&
      occupant.all (·.colour ≠ piece.colour) &&
      match manner piece rank dx dy occupant.isSome with
      | .impossible => false
      | .leap => true
      | .slide => isClear board [file, rank] [file', rank']
  | _, _ => false

end GridChess.RuleSet.Flat

namespace GridChess.RuleSet

/-- The rules of the flat board. -/
def flat : RuleSet where
  name := Flat.name
  defaultBoard := Flat.defaultBoard
  cells := Flat.cells
  readPosition? := Position.readFlat?
  canMove := Flat.canMove

end GridChess.RuleSet
