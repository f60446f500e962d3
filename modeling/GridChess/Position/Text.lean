import GridChess.Position
import GridChess.Text.Numeral

/-!
# Position texts

A flat cell is written as a letter for the file and a number for the rank, a hyper cell as two
such pairs whose second letter starts at `m`. Every position can be written; reading accepts
exactly the texts of cells on the board of the asked kind.
-/

set_option autoImplicit false

namespace GridChess.Position

open GridChess.Text

/-- The letter of a coordinate, counted from `base`; a question mark where there is none. -/
def axisLetter (base : Char) (c : Int) : Char :=
  let code := base.toNat + c
  if 0 ≤ code ∧ code.toNat.isValidChar then Char.ofNat code.toNat else '?'

def chars : Position → List Char
  | .flat file rank => axisLetter 'a' file :: Numeral.integer (rank + 1)
  | .hyper x y z w =>
    axisLetter 'a' x :: Numeral.integer (y + 1) ++
      axisLetter 'm' z :: Numeral.integer (w + 1)
  | .invalid => "invalid position".toList

instance : ToString Position := ⟨fun p => String.ofList p.chars⟩

/-- The coordinate named by a character, counted from `base` on an axis of `size` cells. -/
def axisIndex? (size : Nat) (base c : Char) : Option Int :=
  if base.toNat ≤ c.toNat ∧ c.toNat < base.toNat + size then some (c.toNat - base.toNat)
  else none

def readFlat? (text : String) : Option Position :=
  match text.toList with
  | [f, r] => do
    let file ← axisIndex? flatSize 'a' f
    let rank ← axisIndex? flatSize '1' r
    return .flat file rank
  | _ => none

def readHyper? (text : String) : Option Position :=
  match text.toList with
  | [a, b, c, d] => do
    let x ← axisIndex? hyperSize 'a' a
    let y ← axisIndex? hyperSize '1' b
    let z ← axisIndex? hyperSize 'm' c
    let w ← axisIndex? hyperSize '1' d
    return .hyper x y z w
  | _ => none

end GridChess.Position
