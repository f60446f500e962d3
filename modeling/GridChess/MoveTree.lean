import GridChess.RuleSet
import GridChess.Text.Numeral
import GridChess.Text.Padded

/-!
# Move trees

Counts of the lines of legal moves of a given depth, and of those that end in a capture.
-/

set_option autoImplicit false

namespace GridChess

structure NodeCount where
  all : Nat
  captures : Nat
  deriving DecidableEq, Repr

namespace NodeCount

def zero : NodeCount := ⟨0, 0⟩

def add (a b : NodeCount) : NodeCount := ⟨a.all + b.all, a.captures + b.captures⟩

def sum (counts : List NodeCount) : NodeCount := counts.foldl add zero

def capturesLayout : Text.Layout := { width := 4 }

def chars (count : NodeCount) : List Char :=
  Text.Numeral.natural count.all ++ " - cp: ".toList ++
    capturesLayout.apply (Text.Numeral.natural count.captures)

instance : ToString NodeCount := ⟨fun count => String.ofList count.chars⟩

end NodeCount

namespace RuleSet

/-- Counts the lines of `depth` moves. The last move of a line is not applied. -/
def countNodes (rules : RuleSet) : Nat → Board → NodeCount
  | 0, _ => ⟨1, 0⟩
  | 1, board =>
    .sum <| (rules.legalMoves board .zero).map fun move =>
      ⟨1, if board.isOccupied move.target then 1 else 0⟩
  | depth + 2, board =>
    .sum <| (rules.legalMoves board .zero).map fun move =>
      match rules.applyMove board move with
      | .ok next => rules.countNodes (depth + 1) next
      | .error _ => .zero

end RuleSet

end GridChess
