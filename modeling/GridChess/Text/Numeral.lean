/-!
# Decimal numerals

Digits of natural numbers and integers, and the values they stand for. Numerals are lists of
characters, most significant digit first and without leading zeros. The digits of a number have
it as their value (`value_natural`).
-/

set_option autoImplicit false

namespace GridChess.Text.Numeral

/-- The largest number that 64 bits hold, plus one. -/
def wordLimit : Nat := 18446744073709551616

def isDigit (c : Char) : Bool := '0' ≤ c && c ≤ '9'

def digitValue (c : Char) : Nat := c.toNat - '0'.toNat

def natural (n : Nat) : List Char := Nat.toDigits 10 n

def integer (z : Int) : List Char :=
  if z < 0 then '-' :: natural z.natAbs else natural z.natAbs

/-- The number below one hundred written with two digits. -/
def twoDigits (n : Nat) : List Char := [Nat.digitChar (n / 10), Nat.digitChar (n % 10)]

/-- The value of a list of digits; the empty list counts as zero. -/
def value (digits : List Char) : Nat :=
  digits.foldl (fun total c => 10 * total + digitValue c) 0

/-- Reads a whole text as an unsigned 64-bit number. One leading plus sign is allowed. -/
def readWord? (text : List Char) : Option Nat :=
  let digits := match text with
    | '+' :: rest => rest
    | _ => text
  if !digits.isEmpty && digits.all isDigit && value digits < wordLimit then
    some (value digits)
  else none

theorem natural_of_lt {n : Nat} (h : n < 10) : natural n = [Nat.digitChar n] :=
  Nat.toDigits_of_lt_base h

theorem natural_step {n d : Nat} (hn : 0 < n) (hd : d < 10) :
    natural (10 * n + d) = natural n ++ natural d :=
  (Nat.toDigits_append_toDigits (by decide) hn hd).symm

theorem value_append (a b : List Char) :
    value (a ++ b) = b.foldl (fun total c => 10 * total + digitValue c) (value a) := by
  simp [value]

theorem digitValue_digitChar {d : Nat} (h : d < 10) : digitValue (Nat.digitChar d) = d := by
  have : ∀ d < 10, digitValue (Nat.digitChar d) = d := by decide
  exact this d h

theorem natural_append_digit (n : Nat) (h : 10 ≤ n) :
    natural n = natural (n / 10) ++ [Nat.digitChar (n % 10)] := by
  have digit : n % 10 < 10 := Nat.mod_lt _ (by decide)
  rw [← natural_of_lt digit, ← natural_step (Nat.div_pos h (by decide)) digit, Nat.div_add_mod]

theorem value_natural (n : Nat) : value (natural n) = n := by
  induction n using Nat.strongRecOn with
  | ind n ih =>
    by_cases h : n < 10
    · rw [natural_of_lt h]
      simp [value, digitValue_digitChar h]
    · have digit : n % 10 < 10 := Nat.mod_lt _ (by decide)
      rw [natural_append_digit n (by omega), value_append, ih (n / 10) (by omega)]
      simp only [List.foldl_cons, List.foldl_nil, digitValue_digitChar digit]
      omega

theorem isDigit_of_mem_natural {n : Nat} {c : Char} (h : c ∈ natural n) : isDigit c = true := by
  have := Nat.isDigit_of_mem_toDigits (by decide) (by decide) h
  simpa [isDigit, Char.isDigit, Char.le_def] using this

theorem natural_ne_nil (n : Nat) : natural n ≠ [] := by
  by_cases h : n < 10
  · simp [natural_of_lt h]
  · simp [natural_append_digit n (by omega)]

end GridChess.Text.Numeral
