import GridChess.Proofs.Json.Reads
import Mathlib.Data.List.TakeDrop

/-!
# Reading numbers back

The digits of a natural number start with zero only if they are no more than that, so they are the
whole of a number in JSON. They are read up to what stands behind a value, as the number that was
written if it fits in 64 bits (`reads_unsigned`).
-/

set_option autoImplicit false

namespace GridChess

namespace Text.Numeral

theorem digitChar_ne_zero (d : Nat) (positive : 0 < d) (small : d < 10) :
    Nat.digitChar d ≠ '0' := by
  have others : ∀ d < 10, 0 < d → Nat.digitChar d ≠ '0' := by decide
  exact others d small positive

/-- Only the number zero starts with a zero. -/
theorem head_natural (n : Nat) (positive : 0 < n) (c : Char) (tail : List Char)
    (written : natural n = c :: tail) : c ≠ '0' := by
  induction n using Nat.strongRecOn generalizing c tail with
  | ind n ih =>
    by_cases short : n < 10
    · rw [natural_of_lt short] at written
      rw [← (List.cons.inj written).1]
      exact digitChar_ne_zero n positive short
    · obtain ⟨first, rest, leading⟩ := List.exists_cons_of_ne_nil (natural_ne_nil (n / 10))
      rw [natural_append_digit n (by omega), leading] at written
      rw [← (List.cons.inj written).1]
      exact ih (n / 10) (by omega) (by omega) first rest leading

theorem natural_no_leading_zero (n : Nat) (next : Char) (tail : List Char) :
    natural n ≠ '0' :: next :: tail := by
  intro written
  by_cases zero : n = 0
  · rw [zero, natural_of_lt (by decide)] at written
    cases (List.cons.inj written).2
  · exact head_natural n (Nat.pos_of_ne_zero zero) '0' _ written rfl

theorem isDigit_head_natural (n : Nat) : ∃ c tail, natural n = c :: tail ∧ isDigit c = true := by
  obtain ⟨c, tail, written⟩ := List.exists_cons_of_ne_nil (natural_ne_nil n)
  exact ⟨c, tail, written, isDigit_of_mem_natural (n := n) (by rw [written]; simp)⟩

end Text.Numeral

namespace Json

open Text

/-- What follows a value is neither a further digit nor a point nor an exponent. -/
theorem Closes.head_ne (rest : List Char) (closes : Closes rest) (c : Char) (tail : List Char)
    (same : rest = c :: tail) :
    Numeral.isDigit c = false ∧ c ≠ '.' ∧ ¬(c = 'e' ∨ c = 'E') := by
  rw [same] at closes
  rcases closes c rfl with rfl | rfl | rfl | rfl <;> decide

namespace Literal

theorem digits_append (ds rest : List Char) (nonempty : ds ≠ [])
    (all : ∀ c ∈ ds, Numeral.isDigit c = true)
    (ends : ∀ c tail, rest = c :: tail → Numeral.isDigit c = false) :
    digits (ds ++ rest) = .ok (ds, rest) := by
  have left : rest.takeWhile Numeral.isDigit = [] ∧ rest.dropWhile Numeral.isDigit = rest := by
    cases rest with
    | nil => exact ⟨rfl, rfl⟩
    | cons c tail => simp [ends c tail rfl]
  unfold digits
  rw [List.span_eq_takeWhile_dropWhile, List.takeWhile_append_of_pos all,
    List.dropWhile_append_of_pos all, left.1, left.2, List.append_nil]
  cases ds with
  | nil => exact absurd rfl nonempty
  | cons c ds => rfl

theorem readWhole_natural (n : Nat) (rest : List Char) (closes : Closes rest) :
    readWhole (Numeral.natural n ++ rest) = .ok (Numeral.natural n, rest) := by
  unfold readWhole
  rw [digits_append _ rest (Numeral.natural_ne_nil n)
    (fun c member => Numeral.isDigit_of_mem_natural member)
    (fun c tail same => (closes.head_ne rest c tail same).1), ok_bind]
  dsimp only
  split
  · rename_i written
    exact absurd written (Numeral.natural_no_leading_zero n _ _)
  · rfl

theorem readFraction_closes (rest : List Char) (closes : Closes rest) :
    readFraction rest = .ok (none, rest) := by
  unfold readFraction
  split
  · exact absurd rfl (closes.head_ne _ _ _ rfl).2.1
  · rfl

theorem readExponent_closes (rest : List Char) (closes : Closes rest) :
    readExponent rest = .ok (none, rest) := by
  unfold readExponent
  cases rest with
  | nil => rfl
  | cons c tail => exact if_neg (closes.head_ne _ c tail rfl).2.2

theorem read_natural (n : Nat) (rest : List Char) (closes : Closes rest) :
    read (Numeral.natural n ++ rest) = .ok (⟨false, Numeral.natural n, none, none⟩, rest) := by
  obtain ⟨c, tail, written, digit⟩ := Numeral.isDigit_head_natural n
  have whole := readWhole_natural n rest closes
  rw [written] at whole ⊢
  rw [List.cons_append] at whole ⊢
  unfold read
  split
  rename_i sign
  split at sign
  · rename_i minus
    rw [(List.cons.inj minus).1] at digit
    cases digit
  · cases sign
    rw [whole, ok_bind]
    simp only [readFraction_closes rest closes, ok_bind, readExponent_closes rest closes]
    rfl

end Literal

theorem readNumber_natural (n : Nat) (fits : n < Numeral.wordLimit) (rest : List Char)
    (closes : Closes rest) : readNumber (Numeral.natural n ++ rest) = .ok (.natural n, rest) := by
  have number : (⟨false, Numeral.natural n, none, none⟩ : Literal).number? =
      some (.natural n) := by
    simp [Literal.number?, Literal.integer?, Numeral.value_natural, fits]
  unfold readNumber
  rw [Literal.read_natural n rest closes, ok_bind]
  simp only [number]
  rfl

theorem isSpace_of_isDigit (c : Char) (digit : Numeral.isDigit c = true) : isSpace c = false := by
  rw [Bool.eq_false_iff]
  intro space
  simp only [isSpace, Bool.or_eq_true, beq_iff_eq] at space
  rcases space with ((rfl | rfl) | rfl) | rfl <;> cases digit

theorem startsBut_natural (mark : Char) (n : Nat) (other : Numeral.isDigit mark = false) :
    StartsBut mark (Writer.natural n) := by
  intro style depth
  obtain ⟨c, tail, written, digit⟩ := Numeral.isDigit_head_natural n
  refine ⟨c, tail, written, isSpace_of_isDigit c digit, ?_⟩
  rintro rfl
  rw [digit] at other
  cases other

/-- Every number of 64 bits is read back. -/
theorem reads_unsigned (expected : String) (n : UInt64) :
    Reads (readUnsigned expected) (Writer.natural n.toNat) n where
  back := by
    intro style depth space rest blank closes
    have number := readNumber_natural n.toNat n.toNat_lt rest closes
    obtain ⟨c, tail, written, digit⟩ := Numeral.isDigit_head_natural n.toNat
    unfold Writer.natural
    rw [written, List.cons_append] at number ⊢
    unfold readUnsigned
    rw [skipSpace_mark space c _ blank (isSpace_of_isDigit c digit)]
    simp only [digit, or_true, if_true, number, ok_bind, UInt64.ofNat_toNat]
    rfl
  starts := startsBut_natural ']' n.toNat (by decide)

end Json

end GridChess
