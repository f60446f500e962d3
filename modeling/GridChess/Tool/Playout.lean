import GridChess.Match

/-!
# Playouts

A playout plays legal moves that somebody else picks. The clock advances by the same delay before
every move. It ends after the given number of moves or when there is no legal move.
-/

set_option autoImplicit false

namespace GridChess.Tool

inductive PlayoutFault where
  /-- The time of a move is more than a duration can hold. -/
  | clockOverflow
  /-- A picked move was refused. -/
  | refused (error : Error)
  deriving DecidableEq, Repr

/-- An element of the list, counting round and round. -/
def pick? (moves : List Move) (number : Nat) : Option Move := moves[number % moves.length]?

/-- Plays up to `plies` moves from the `index`-th on. -/
def playout (picks : Nat → Nat) (delay : Duration) :
    (plies index : Nat) → (elapsed : Duration) → Match → Except PlayoutFault Match
  | 0, _, _, game => .ok game
  | plies + 1, index, elapsed, game =>
    match elapsed.add? delay with
    | none => .error .clockOverflow
    | some elapsed =>
      match pick? (game.rules.legalMoves game.board elapsed) (picks index) with
      | none => .ok game
      | some move =>
        match game.apply move with
        | .error error => .error (.refused error)
        | .ok game => playout picks delay plies (index + 1) elapsed game

end GridChess.Tool
