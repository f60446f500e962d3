import GridChess.Text.Numeral

/-!
# Binary fractions of 64 bits

Numbers of 53 binary digits and a bounded exponent, computed exactly and rounded to nearest with
ties to even, and their shortest decimal texts.
-/

set_option autoImplicit false

namespace GridChess.Text

/-- The number `mantissa * 2 ^ exponent`. -/
structure Binary64 where
  mantissa : Nat
  exponent : Int
  deriving DecidableEq, Repr

namespace Binary64

def leastExponent : Int := -1074

def greatestExponent : Int := 971

def zero : Binary64 := ⟨0, leastExponent⟩

/-- `n / d * 2 ^ (-e)` as a ratio. -/
def scaled (n d : Nat) (e : Int) : Nat × Nat :=
  if 0 ≤ e then (n, d <<< e.toNat) else (n <<< (-e).toNat, d)

/-- The integer nearest to `n / d`; a tie goes to the even one. -/
def roundDiv (n d : Nat) : Nat :=
  let q := n / d
  let r := n % d
  if d < 2 * r ∨ (2 * r = d ∧ q % 2 = 1) then q + 1 else q

/-- The exponent at which `n / d` has 53 binary digits, but not below the least. -/
def exponentOf (n d : Nat) : Int :=
  let e : Int := (n.log2 : Int) - d.log2 - 52
  let (n', d') := scaled n d e
  max leastExponent (if n' / d' < 1 <<< 52 then e - 1 else e)

/-- `n / d` rounded, or nothing where it is too large. -/
def ofRatio? (n d : Nat) : Option Binary64 :=
  if n = 0 then some zero
  else
    let e := exponentOf n d
    let (n', d') := scaled n d e
    let m := roundDiv n' d'
    let result : Binary64 := if m = 1 <<< 53 then ⟨1 <<< 52, e + 1⟩ else ⟨m, e⟩
    if greatestExponent < result.exponent then none else some result

def ratio (x : Binary64) : Nat × Nat := scaled x.mantissa 1 (-x.exponent)

def mul? (x y : Binary64) : Option Binary64 :=
  ofRatio? (x.ratio.1 * y.ratio.1) (x.ratio.2 * y.ratio.2)

def div? (x y : Binary64) : Option Binary64 :=
  ofRatio? (x.ratio.1 * y.ratio.2) (x.ratio.2 * y.ratio.1)

def powerOfTen (k : Nat) : Option Binary64 := ofRatio? (Nat.pow 10 k) 1

/-- The greatest power of ten among these numbers. -/
def mostTens : Nat := 308

/-- Multiplies by a power of ten, rounding after every factor. A small number is divided by the
greatest power of ten until what remains of the exponent is a power itself. -/
def timesPowerOfTen? (x : Binary64) (exponent : Int) : Option Binary64 :=
  if exponent.natAbs ≤ mostTens then do
    let power ← powerOfTen exponent.natAbs
    if 0 ≤ exponent then x.mul? power else x.div? power
  else if x.mantissa = 0 then some x
  else if 0 ≤ exponent then none
  else do
    let smaller ← x.div? (← powerOfTen mostTens)
    smaller.timesPowerOfTen? (exponent + mostTens)
termination_by exponent.natAbs
decreasing_by
  simp only [mostTens] at *
  omega

/-- A decimal number `digits * 10 ^ exponent`. -/
structure Decimal where
  digits : Nat
  exponent : Int
  deriving DecidableEq, Repr

/-- Four times the ends of the interval of reals that round to `x`, over `2 ^ x.exponent`. -/
def quarterBounds (x : Binary64) : Nat × Nat :=
  let below := if x.mantissa = 1 <<< 52 ∧ leastExponent < x.exponent then 1 else 2
  (4 * x.mantissa - below, 4 * x.mantissa + 2)

/-- Whether a decimal number rounds to `x`; the ends of the interval do if `x` is even. -/
def isNamedBy (x : Binary64) (t : Decimal) : Bool :=
  let (low, high) := x.quarterBounds
  -- Both sides are multiplied by `4 * 2 ^ (-x.exponent)` and by the powers that are negative.
  let twos := (Nat.pow 10 t.exponent.toNat, Nat.pow 10 (-t.exponent).toNat)
  let (n, d) := scaled (4 * t.digits * twos.1) twos.2 x.exponent
  if x.mantissa % 2 = 0 then low * d ≤ n && n ≤ high * d else low * d < n && n < high * d

/-- The number of decimal digits before the point of `n / d`, counting leading zeros after the
point as negative. -/
def decimalPlaces (n d : Nat) : Nat → Int
  | 0 => 0
  | fuel + 1 =>
    if d ≤ n then (Nat.toDigits 10 (n / d)).length
    else if d ≤ 10 * n then 0
    else decimalPlaces (10 * n) d fuel - 1

/-- The closer of the two multiples of `10 ^ exponent` next to `x` that round to it. -/
def nearestAt? (x : Binary64) (exponent : Int) : Option Decimal :=
  let (n, d) := x.ratio
  let n' := n * Nat.pow 10 (-exponent).toNat
  let d' := d * Nat.pow 10 exponent.toNat
  let nearest := roundDiv n' d'
  let other := if nearest = n' / d' then nearest + 1 else nearest - 1
  if x.isNamedBy ⟨nearest, exponent⟩ then some ⟨nearest, exponent⟩
  else if x.isNamedBy ⟨other, exponent⟩ then some ⟨other, exponent⟩
  else none

/-- The decimal number with the fewest digits that rounds to `x`, which is not zero. -/
def shortest (x : Binary64) : Decimal :=
  let (n, d) := x.ratio
  let places := decimalPlaces n d 400
  let found := (List.range 17).findSome? fun (count : Nat) => x.nearestAt? (places - (count + 1))
  found.getD ⟨x.mantissa, 0⟩

/-- Takes zeros off the end of the digits. -/
def Decimal.stripped (t : Decimal) : Nat → Decimal
  | 0 => t
  | fuel + 1 =>
    if t.digits ≠ 0 ∧ t.digits % 10 = 0 then
      Decimal.stripped ⟨t.digits / 10, t.exponent + 1⟩ fuel
    else t

/-- Positional from 1e-5 up to sixteen digits before the point, always with a digit on both
sides of it; with an exponent elsewhere, whose sign is always written. -/
def Decimal.chars (t : Decimal) : List Char :=
  let digits := Numeral.natural t.digits
  let places : Int := digits.length + t.exponent
  let zeros (n : Int) := List.replicate n.toNat '0'
  if 0 ≤ t.exponent ∧ places ≤ 16 then digits ++ zeros t.exponent ++ ['.', '0']
  else if 0 < places ∧ places ≤ 16 then
    digits.take places.toNat ++ '.' :: digits.drop places.toNat
  else if -5 < places ∧ places ≤ 0 then '0' :: '.' :: zeros (-places) ++ digits
  else
    let power := places - 1
    let tail := 'e' :: (if power < 0 then '-' else '+') :: Numeral.natural power.natAbs
    match digits with
    | [digit] => digit :: tail
    | digit :: rest => digit :: '.' :: rest ++ tail
    | [] => tail

def chars (x : Binary64) : List Char :=
  if x.mantissa = 0 then "0.0".toList else (x.shortest.stripped 17).chars

end Binary64

end GridChess.Text
