import GridChess.RuleSet
import GridChess.Timestamp

/-!
# Matches

A match is a board under a rule set together with its start and the log of its moves. A call
that fails gives an error and no new match, so the old one stands.
-/

set_option autoImplicit false

namespace GridChess

structure Match where
  rules : RuleSet
  board : Board
  start : Option Instant
  /-- Oldest first. -/
  moves : List Move

namespace Match

/-- A match that begins at `start` on the default board. -/
def new (rules : RuleSet) (start : Option Instant) : Match where
  rules := rules
  board := rules.defaultBoard
  start := start
  moves := []

def currentPlayer (game : Match) : Colour := game.board.turn

def lastMove? (game : Match) : Option Move := game.moves.getLast?

/-- Applies a move of the colour whose turn it is, and logs it. -/
def apply (game : Match) (move : Move) : Except Error Match :=
  match game.board.at? move.origin with
  | none => .error (.illegalMove move.origin move.target)
  | some piece =>
    if piece.colour = game.board.turn then do
      let board ← game.rules.applyMove game.board move
      return { game with board, moves := game.moves ++ [move] }
    else .error (.illegalMove move.origin move.target)

/-- Applies a move given by the texts of its two cells. -/
def play (game : Match) (origin target : String) (time : Duration) : Except Error Match := do
  let origin ← game.rules.readPosition origin
  let target ← game.rules.readPosition target
  match game.board.at? origin with
  | none => throw (.illegalMove origin target)
  | some piece => game.apply { kind := piece.kind, origin, target, time }

/-- The two ways to make a move. -/
inductive Call where
  | apply (move : Move)
  | play (origin target : String) (time : Duration)
  deriving DecidableEq, Repr

def call (game : Match) : Call → Except Error Match
  | .apply move => game.apply move
  | .play origin target time => game.play origin target time

/-- The match after a call, which is the old one if the call fails. -/
def attempt (game : Match) (c : Call) : Match :=
  match game.call c with
  | .ok next => next
  | .error _ => game

/-- The match after a sequence of calls, failing ones among them. -/
def run (game : Match) (calls : List Call) : Match := calls.foldl attempt game

/-- Applies all of the moves in order, or fails with the first that is refused. -/
def applyAll (game : Match) (moves : List Move) : Except Error Match := moves.foldlM apply game

/-- Whether the log leads from the default board to the board of the match. -/
def isReplayable (game : Match) : Bool :=
  match (new game.rules game.start).applyAll game.moves with
  | .ok replayed => replayed.board = game.board
  | .error _ => false

end Match

end GridChess
