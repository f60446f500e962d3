import GridChess.Board
import GridChess.Error

/-!
# Rule sets

A rule set binds a board geometry to a setup and to a decision which piece may go where. What
follows from that decision is the same for every rule set: applying a move, the cells a piece
reaches, and the moves of the colour whose turn it is.
-/

set_option autoImplicit false

namespace GridChess

structure RuleSet where
  name : String
  /-- The players in turn order. -/
  colours : List Colour := [.white, .black]
  defaultBoard : Board
  /-- Every cell of the board, each once. -/
  cells : List Position
  readPosition? : String → Option Position
  /-- Whether the shape of the move and the pieces in its way allow it. -/
  canMove : Board → Piece → Position → Bool

/-- The colour after `current` in turn order, which starts again at its end. A colour that does
not take part is followed by its opposite. -/
def nextPlayer (colours : List Colour) (current : Colour) : Colour :=
  match colours.idxOf? current with
  | some i => colours[(i + 1) % colours.length]?.getD current.opposite
  | none => current.opposite

namespace RuleSet

def readPosition (rules : RuleSet) (text : String) : Except Error Position :=
  match rules.readPosition? text with
  | some p => .ok p
  | none => .error (.invalidFormat text)

theorem readPosition_eq_ok_iff (rules : RuleSet) (text : String) (p : Position) :
    rules.readPosition text = .ok p ↔ rules.readPosition? text = some p := by
  unfold readPosition
  cases rules.readPosition? text with
  | none => simp
  | some q => simp

theorem readPosition_eq_error_iff (rules : RuleSet) (text : String) (fault : Error) :
    rules.readPosition text = .error fault ↔
      rules.readPosition? text = none ∧ fault = .invalidFormat text := by
  unfold readPosition
  cases rules.readPosition? text with
  | none => simp [eq_comm]
  | some q => simp

/-- The same rules under other players. -/
def withColours (rules : RuleSet) (colours : List Colour) : RuleSet :=
  { rules with colours := colours }

/-- Moves the piece on the origin and hands the turn to the next colour. -/
def applyMove (rules : RuleSet) (board : Board) (move : Move) : Except Error Board :=
  match board.at? move.origin with
  | none => .error (.illegalMove move.origin move.target)
  | some piece =>
    if rules.canMove board piece move.target then
      .ok (board.relocate move.origin move.target (nextPlayer rules.colours board.turn))
    else .error (.illegalMove move.origin move.target)

/-- Every cell that the piece may go to. -/
def reachable (rules : RuleSet) (board : Board) (piece : Piece) : List Position :=
  rules.cells.filter (rules.canMove board piece)

/-- Every move of the colour to move, each with the given time. -/
def legalMoves (rules : RuleSet) (board : Board) (time : Duration) : List Move :=
  (board.pieces.filter (·.colour = board.turn)).flatMap fun piece =>
    (rules.reachable board piece).map fun target =>
      { kind := piece.kind, origin := piece.position, target, time }

end RuleSet

end GridChess
