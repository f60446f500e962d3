/-!
# Displacements

Cells and displacements of any number of axes, as lists of integers of any size. A displacement
has a unit direction (the sign along each axis) and a number of steps (the longest axis). It is
straight when at most one axis moves, and diagonal when two or more axes move by equal amounts;
on such lines `between` lists the cells strictly between two ends.
-/

set_option autoImplicit false

namespace GridChess.Displacement

def difference (origin target : List Int) : List Int :=
  List.zipWith (fun o t => t - o) origin target

def unit (delta : List Int) : List Int := delta.map Int.sign

def steps (delta : List Int) : Nat := delta.foldr (fun d most => max d.natAbs most) 0

def moving (delta : List Int) : List Int := delta.filter (· ≠ 0)

def isStraight (delta : List Int) : Bool := (moving delta).length ≤ 1

def isDiagonal (delta : List Int) : Bool :=
  match moving delta with
  | first :: second :: rest => (second :: rest).all fun d => d.natAbs = first.natAbs
  | _ => false

def step (cell direction : List Int) : List Int := List.zipWith (· + ·) cell direction

/-- The first `n` cells met when walking from a cell, which is left out. -/
def walk (cell direction : List Int) : Nat → List (List Int)
  | 0 => []
  | n + 1 => step cell direction :: walk (step cell direction) direction n

def between (origin target : List Int) : List (List Int) :=
  let delta := difference origin target
  walk origin (unit delta) (steps delta - 1)

end GridChess.Displacement
