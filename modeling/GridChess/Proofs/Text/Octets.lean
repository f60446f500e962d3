import GridChess.Text.Octets

/-!
# Octets of texts in the basic alphabet

A character below 128 is one octet, its own number, and no character takes more than four.
-/

set_option autoImplicit false

namespace GridChess.Text

theorem octetsOf_cons (c : Char) (chars : List Char) :
    octetsOf (c :: chars) = String.utf8EncodeChar c ++ octetsOf chars := List.flatMap_cons

theorem utf8EncodeChar_basic (c : Char) (basic : c.toNat < 128) :
    String.utf8EncodeChar c = [c.toNat.toUInt8] := by
  have small : c.val.toNat ≤ 127 := Nat.le_of_lt_succ basic
  simp only [String.utf8EncodeChar, small, if_true]
  rfl

theorem octetsOf_basic (chars : List Char) (basic : ∀ c ∈ chars, c.toNat < 128) :
    octetsOf chars = chars.map fun c => c.toNat.toUInt8 := by
  induction chars with
  | nil => rfl
  | cons c chars ih =>
    have first := utf8EncodeChar_basic c (basic c (by simp))
    have later := ih fun other member => basic other (by simp [member])
    rw [octetsOf_cons, first, later]
    rfl

theorem length_octetsOf_le (chars : List Char) : (octetsOf chars).length ≤ 4 * chars.length := by
  induction chars with
  | nil => exact Nat.le_refl _
  | cons c chars ih =>
    have first := c.utf8Size_le_four
    rw [octetsOf_cons, List.length_append, String.length_utf8EncodeChar, List.length_cons]
    omega

end GridChess.Text
