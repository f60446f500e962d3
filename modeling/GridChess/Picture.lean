import GridChess.Match
import GridChess.RuleSet.Flat
import GridChess.Text.Numeral
import GridChess.Text.Padded

/-!
# Pictures of matches

The board of a match followed by its moves. A flat board is drawn as a grid of coloured cells
with the highest rank on top; of any other board, the occupied cells are listed.
-/

set_option autoImplicit false

namespace GridChess.Picture

open GridChess.Text

def darkCell : String := "\x1b[48;5;178m\x1b[38;5;0m"

def lightCell : String := "\x1b[48;5;229m\x1b[38;5;0m"

def plain : String := "\x1b[0m"

def background : Colour → String
  | .black => darkCell
  | .white => lightCell

/-- A cell is three characters wide. -/
def cell (board : Board) (p : Position) : List Char :=
  let glyph := match board.at? p with
    | some piece => piece.kind.glyph piece.colour
    | none => ' '
  (background p.cellColour).toList ++ [' ', glyph, ' '] ++ plain.toList

def fileLetters : List Char :=
  "   ".toList ++ "abcdefgh".toList.flatMap (fun file => [' ', file, ' ']) ++ ['\n']

def border : List Char := "  +------------------------+\n".toList

def rankLine (board : Board) (rank : Int) : List Char :=
  let label := Numeral.integer (rank + 1)
  label ++ " |".toList ++
    (Position.axis Position.flatSize).flatMap (fun file => cell board (.flat file rank)) ++
    "| ".toList ++ label ++ ['\n']

def grid (board : Board) : List Char :=
  fileLetters ++ border ++
    (Position.axis Position.flatSize).reverse.flatMap (rankLine board) ++
    border ++ fileLetters

/-- The occupied cells in the order of the rule set, one a line. -/
def listing (cells : List Position) (board : Board) : List Char :=
  cells.flatMap fun p =>
    match board.at? p with
    | some piece =>
      "Position ".toList ++ p.chars ++ " has ".toList ++ piece.colour.name.toList ++
        [' ', piece.kind.blackGlyph, '\n']
    | none => []

def numberLayout : Layout := { width := 3, alignment := .right }

/-- The move at an index; the first of each pair carries the number of the pair. -/
def moveLine (move : Move) (index : Nat) : List Char :=
  let label :=
    if index % 2 = 0 then
      ' ' :: numberLayout.apply (Numeral.natural (index / 2 + 1)) ++ ": ".toList
    else "      ".toList
  label ++ move.chars ++ ['\n']

def boardChars (game : Match) : List Char :=
  if game.rules.name = RuleSet.Flat.name then grid game.board
  else listing game.rules.cells game.board

def chars (game : Match) : List Char :=
  boardChars game ++ game.moves.zipIdx.flatMap fun (move, index) => moveLine move index

def ofMatch (game : Match) : String := String.ofList (chars game)

end GridChess.Picture
