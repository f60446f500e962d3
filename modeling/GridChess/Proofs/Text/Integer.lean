import GridChess.Text.Numeral

/-!
# Integer numerals

The numeral of an integer determines it. A numeral of one character is the digit of a number
below ten, and a numeral holds nothing but digits and a sign.
-/

set_option autoImplicit false

namespace GridChess.Text.Numeral

theorem natural_injective (m n : Nat) (same : natural m = natural n) : m = n := by
  rw [← value_natural m, same, value_natural]

theorem integer_of_nonneg (z : Int) (nonneg : 0 ≤ z) : integer z = natural z.toNat := by
  unfold integer
  rw [if_neg (by omega)]
  congr 1
  omega

theorem integer_of_neg (z : Int) (negative : z < 0) : integer z = '-' :: natural z.natAbs := by
  unfold integer
  rw [if_pos negative]

theorem integer_ne_nil (z : Int) : integer z ≠ [] := by
  by_cases negative : z < 0
  · simp [integer_of_neg z negative]
  · rw [integer_of_nonneg z (by omega)]
    exact natural_ne_nil z.toNat

theorem mem_integer (z : Int) (c : Char) (member : c ∈ integer z) :
    isDigit c = true ∨ c = '-' := by
  by_cases negative : z < 0
  · rw [integer_of_neg z negative] at member
    cases member with
    | head => exact Or.inr rfl
    | tail _ member => exact Or.inl (isDigit_of_mem_natural member)
  · rw [integer_of_nonneg z (by omega)] at member
    exact Or.inl (isDigit_of_mem_natural member)

/-- A sign is no digit, so the signs of equal numerals agree. -/
theorem natural_ne_signed (m n : Nat) : natural m ≠ '-' :: natural n := by
  intro same
  have digit := isDigit_of_mem_natural (n := m) (c := '-') (by simp [same])
  cases digit

theorem integer_injective (a b : Int) (same : integer a = integer b) : a = b := by
  by_cases first : a < 0 <;> by_cases second : b < 0
  · rw [integer_of_neg a first, integer_of_neg b second, List.cons.injEq] at same
    have magnitude := natural_injective _ _ same.2
    omega
  · rw [integer_of_neg a first, integer_of_nonneg b (by omega)] at same
    exact absurd same.symm (natural_ne_signed _ _)
  · rw [integer_of_nonneg a (by omega), integer_of_neg b second] at same
    exact absurd same (natural_ne_signed _ _)
  · rw [integer_of_nonneg a (by omega), integer_of_nonneg b (by omega)] at same
    have magnitude := natural_injective _ _ same
    omega

/-- The numeral of a small number is its digit. -/
theorem integer_of_small (z : Int) (nonneg : 0 ≤ z) (small : z < 10) :
    integer z = [Nat.digitChar z.toNat] := by
  rw [integer_of_nonneg z nonneg]
  exact natural_of_lt (by omega)

end GridChess.Text.Numeral
