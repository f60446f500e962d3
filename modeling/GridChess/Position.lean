import GridChess.Colour

/-!
# Positions

A position is a cell of the flat board, a cell of the hyper-board, or no cell at all.
Coordinates are integers counted from zero and may lie off the board. `sameCell` is the test
that boards use: it holds of two equal cells and never of `invalid`, not even with itself.
-/

set_option autoImplicit false

namespace GridChess

inductive Position where
  | flat (file rank : Int)
  | hyper (x y z w : Int)
  | invalid
  deriving DecidableEq, Repr

namespace Position

/-- Cells along each axis of the flat board. -/
def flatSize : Nat := 8

/-- Cells along each axis of the hyper-board. -/
def hyperSize : Nat := 6

def coordinates : Position → List Int
  | .flat file rank => [file, rank]
  | .hyper x y z w => [x, y, z, w]
  | .invalid => []

/-- The cell with these coordinates; the number of axes tells the board. -/
def ofCoordinates : List Int → Position
  | [file, rank] => .flat file rank
  | [x, y, z, w] => .hyper x y z w
  | _ => .invalid

def isValid : Position → Bool
  | .invalid => false
  | _ => true

def sameCell (p q : Position) : Bool := p.isValid && p == q

/-- The coordinates along an axis of `size` cells. -/
def axis (size : Nat) : List Int := (List.range size).map Int.ofNat

def within (size : Nat) (c : Int) : Bool := 0 ≤ c && c < size

def onFlatBoard : Position → Bool
  | .flat file rank => within flatSize file && within flatSize rank
  | _ => false

def onHyperBoard : Position → Bool
  | .hyper x y z w =>
    within hyperSize x && within hyperSize y && within hyperSize z && within hyperSize w
  | _ => false

def onBoard (p : Position) : Bool := p.onFlatBoard || p.onHyperBoard

/-- Chequered colouring: cells with an even sum of coordinates are black. -/
def cellColour (p : Position) : Colour :=
  if p.coordinates.foldr (· + ·) 0 % 2 = 0 then .black else .white

/-- Where a hyper-board cell is drawn in space: the boards of one `w` layer lie side by side
along `z`, seven units apart, and layers are stacked two units apart. -/
def worldPlacement : Position → Option (Int × Int × Int)
  | .hyper x y z w => some (x + 7 * z, 2 * w, y)
  | _ => none

@[simp]
theorem ofCoordinates_coordinates (p : Position) : ofCoordinates p.coordinates = p := by
  cases p <;> rfl

theorem sameCell_iff {p q : Position} : p.sameCell q = true ↔ p = q ∧ p ≠ .invalid := by
  cases p <;> simp [sameCell, isValid]

theorem sameCell_comm (p q : Position) : p.sameCell q = q.sameCell p := by
  rw [Bool.eq_iff_iff, sameCell_iff, sameCell_iff]
  constructor <;> rintro ⟨rfl, h⟩ <;> exact ⟨rfl, h⟩

theorem within_iff {size : Nat} {c : Int} : within size c = true ↔ 0 ≤ c ∧ c < size := by
  simp [within]

end Position

end GridChess
