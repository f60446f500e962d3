import GridChess.Json.Fault
import GridChess.Text.Binary64

/-!
# JSON numbers

Numbers that fit in 64 bits, signed or not, are read exactly. Other numbers are read as binary
fractions: as many leading digits as fit in 64 bits are kept, rounded, and multiplied by a power
of ten. Minus zero is such a fraction.
-/

set_option autoImplicit false

namespace GridChess.Json

open GridChess.Text

inductive Number where
  | natural (n : Nat)
  /-- The integer `-n`. -/
  | negative (n : Nat)
  | decimal (isNegative : Bool) (magnitude : Binary64)
  deriving DecidableEq, Repr

def Number.found : Number → Found
  | .natural n => .integer n
  | .negative n => .integer (-n)
  | .decimal isNegative magnitude =>
    .decimal (String.ofList ((if isNegative then ['-'] else []) ++ magnitude.chars))

/-- A number as written. -/
structure Literal where
  isNegative : Bool
  whole : List Char
  /-- The digits after the point, if there is one. -/
  fraction : Option (List Char)
  /-- The digits after `e`, if there is one, and whether a minus sign stands before them. -/
  exponent : Option (Bool × List Char)
  deriving DecidableEq, Repr

namespace Literal

/-- One digit or more, which the text must not end before. -/
def digits (s : List Char) : Except Fault (List Char × List Char) :=
  match s.span Numeral.isDigit with
  | ([], []) => .error .truncated
  | ([], _ :: _) => .error .malformed
  | (ds, rest) => .ok (ds, rest)

/-- A lone zero, or digits of which the first is not zero. -/
def readWhole (s : List Char) : Except Fault (List Char × List Char) := do
  let (ds, rest) ← digits s
  match ds with
  | '0' :: _ :: _ => throw .malformed
  | _ => return (ds, rest)

def readFraction : List Char → Except Fault (Option (List Char) × List Char)
  | '.' :: rest => do
    let (ds, rest) ← digits rest
    return (some ds, rest)
  | rest => .ok (none, rest)

def readExponent (s : List Char) : Except Fault (Option (Bool × List Char) × List Char) := do
  match s with
  | [] => return (none, s)
  | c :: rest =>
    if c = 'e' ∨ c = 'E' then
      let (isNegative, rest) := match rest with
        | '-' :: rest => (true, rest)
        | '+' :: rest => (false, rest)
        | _ => (false, rest)
      let (ds, rest) ← digits rest
      return (some (isNegative, ds), rest)
    else return (none, s)

def read (s : List Char) : Except Fault (Literal × List Char) := do
  let (isNegative, rest) := match s with
    | '-' :: rest => (true, rest)
    | _ => (false, s)
  let (whole, rest) ← readWhole rest
  let (fraction, rest) ← readFraction rest
  let (exponent, rest) ← readExponent rest
  return (⟨isNegative, whole, fraction, exponent⟩, rest)

/-- Leading digits kept as a number, and the power of ten that multiplies it. -/
structure Kept where
  significand : Nat
  exponent : Int
  /-- Whether a digit has been left out. -/
  full : Bool
  deriving DecidableEq, Repr

/-- A digit before the point counts towards the power once it is left out. -/
def Kept.whole (kept : Kept) (c : Char) : Kept :=
  let more := 10 * kept.significand + Numeral.digitValue c
  if kept.full ∨ Numeral.wordLimit ≤ more then
    { kept with exponent := kept.exponent + 1, full := true }
  else { kept with significand := more }

/-- A digit after the point counts towards the power if it is kept. -/
def Kept.fraction (kept : Kept) (c : Char) : Kept :=
  let more := 10 * kept.significand + Numeral.digitValue c
  if kept.full ∨ Numeral.wordLimit ≤ more then { kept with full := true }
  else { kept with significand := more, exponent := kept.exponent - 1 }

def kept (literal : Literal) : Kept :=
  let whole := literal.whole.foldl Kept.whole ⟨0, 0, false⟩
  (literal.fraction.getD []).foldl Kept.fraction { whole with full := false }

def writtenExponent (literal : Literal) : Int :=
  match literal.exponent with
  | none => 0
  | some (isNegative, ds) => if isNegative then -(Numeral.value ds) else Numeral.value ds

/-- The nearest fraction as far as the kept digits tell; nothing where it is too large. -/
def magnitude? (literal : Literal) : Option Binary64 := do
  let significand ← Binary64.ofRatio? literal.kept.significand 1
  significand.timesPowerOfTen? (literal.kept.exponent + literal.writtenExponent)

def integer? (literal : Literal) : Option Number :=
  let n := Numeral.value literal.whole
  if literal.fraction.isSome ∨ literal.exponent.isSome then none
  else if literal.isNegative then
    if 0 < n ∧ n ≤ 9223372036854775808 then some (.negative n) else none
  else if n < Numeral.wordLimit then some (.natural n) else none

def number? (literal : Literal) : Option Number :=
  literal.integer? <|> literal.magnitude?.map (.decimal literal.isNegative)

end Literal

/-- Reads a number, which starts with a digit or a minus sign. -/
def readNumber (s : List Char) : Except Fault (Number × List Char) := do
  let (literal, rest) ← Literal.read s
  match literal.number? with
  | some number => return (number, rest)
  | none => throw .malformed

/-- Passes over a number of any size. A number that is cut off is no number here. -/
def skipNumber (s : List Char) : Except Fault (List Char) :=
  match Literal.read s with
  | .ok (_, rest) => .ok rest
  | .error _ => .error .malformed

end GridChess.Json
