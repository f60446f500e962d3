import GridChess.Displacement

/-!
# Displacements in machine integers

The computations on displacements in signed integers of a fixed width: each sum, difference, sign
and length has to lie in the range of the width, and a computation that leaves it gives nothing.
Cells are computed one by one, and only as many of them as are asked for.
-/

set_option autoImplicit false

namespace GridChess.Displacement

/-- The signed integers up to `most`, of which there is one more below zero than above. -/
structure Width where
  most : Int
  positive : 0 < most

namespace Width

/-- The integers of eight bits. -/
def octet : Width := ⟨127, by decide⟩

/-- The integers of 64 bits. -/
def word : Width := ⟨9223372036854775807, by decide⟩

def Holds (w : Width) (z : Int) : Prop := -w.most - 1 ≤ z ∧ z ≤ w.most

instance (w : Width) (z : Int) : Decidable (w.Holds z) := inferInstanceAs (Decidable (_ ∧ _))

/-- A result, if it lies in the range. -/
def keep? (w : Width) (z : Int) : Option Int := if w.Holds z then some z else none

def length? (w : Width) (d : Int) : Option Nat := (w.keep? d.natAbs).map Int.toNat

def difference? (w : Width) (origin target : List Int) : Option (List Int) :=
  (origin.zip target).mapM fun (o, t) => w.keep? (t - o)

def unit? (w : Width) (delta : List Int) : Option (List Int) :=
  delta.mapM fun d => w.keep? d.sign

def steps? (w : Width) (delta : List Int) : Option Nat := do
  let lengths ← delta.mapM w.length?
  return lengths.foldr max 0

def isDiagonal? (w : Width) (delta : List Int) : Option Bool := do
  match ← (moving delta).mapM w.length? with
  | first :: second :: rest => return (second :: rest).all (· = first)
  | _ => return false

/-- Steps needed when one step may change every axis by one. -/
def distance? (w : Width) (origin target : List Int) : Option Nat := do
  w.steps? (← w.difference? origin target)

def step? (w : Width) (cell direction : List Int) : Option (List Int) :=
  (cell.zip direction).mapM fun (c, d) => w.keep? (c + d)

/-- The unit direction from a cell to another one, and the number of steps. -/
def heading? (w : Width) (origin target : List Int) : Option (List Int × Nat) := do
  let delta ← w.difference? origin target
  let direction ← w.unit? delta
  let steps ← w.steps? delta
  return (direction, steps)

/-- Visits cells while the walk may go on, counting down how many are left. -/
def walkWhile? (w : Width) (goesOn : List Int → Bool) (cell direction : List Int) :
    Nat → Option (List (List Int))
  | 0 => some []
  | left + 1 => do
    let _ ← w.keep? (left + 1)
    let next ← w.step? cell direction
    if goesOn next then
      let later ← w.walkWhile? goesOn next direction left
      return next :: later
    else return [next]

/-- Visits the cells between two ends while the walk may go on. -/
def walkThrough? (w : Width) (goesOn : List Int → Bool) (origin target : List Int) :
    Option (List (List Int)) := do
  let (direction, steps) ← w.heading? origin target
  w.walkWhile? goesOn origin direction (steps - 1)

/-- At most `limit` of the cells between two ends. What comes later is not computed. -/
def firstBetween? (w : Width) (limit : Nat) (origin target : List Int) :
    Option (List (List Int)) := do
  let (direction, steps) ← w.heading? origin target
  w.walkWhile? (fun _ => true) origin direction (min limit (steps - 1))

end Width

end GridChess.Displacement
