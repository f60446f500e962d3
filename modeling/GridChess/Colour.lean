/-!
# Colours

The two sides of a game.
-/

set_option autoImplicit false

namespace GridChess

inductive Colour where
  | black | white
  deriving DecidableEq, Repr

namespace Colour

def opposite : Colour → Colour
  | .white => .black
  | .black => .white

def name : Colour → String
  | .black => "black"
  | .white => "white"

/-- Both colours, in the order that stored snapshots number them. -/
def all : List Colour := [.black, .white]

instance : ToString Colour := ⟨name⟩

@[simp]
theorem opposite_opposite (c : Colour) : c.opposite.opposite = c := by
  cases c <;> rfl

theorem eq_opposite_of_ne (c d : Colour) (differ : c ≠ d) : c = d.opposite := by
  revert differ
  cases c <;> cases d <;> simp [opposite]

end Colour

end GridChess
