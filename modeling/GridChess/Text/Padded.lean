/-!
# Padding to a width

A text is first cut to at most `precision` characters, then filled with spaces up to `width`
characters. Both count characters, and neither ever lengthens nor cuts beyond its own rule.
-/

set_option autoImplicit false

namespace GridChess.Text

inductive Alignment where
  | left | right | centre
  deriving DecidableEq, Repr

structure Layout where
  width : Nat := 0
  alignment : Alignment := .left
  precision : Option Nat := none
  deriving DecidableEq, Repr

def spaces (n : Nat) : List Char := List.replicate n ' '

/-- In the centre, the odd space goes to the right. -/
def Layout.fill (layout : Layout) (text : List Char) : List Char :=
  let missing := layout.width - text.length
  match layout.alignment with
  | .left => text ++ spaces missing
  | .right => spaces missing ++ text
  | .centre => spaces (missing / 2) ++ text ++ spaces (missing - missing / 2)

def Layout.apply (layout : Layout) (text : List Char) : List Char :=
  layout.fill <| match layout.precision with
    | some most => text.take most
    | none => text

theorem length_fill (layout : Layout) (text : List Char) :
    (layout.fill text).length = max layout.width text.length := by
  unfold Layout.fill
  split <;> simp [spaces] <;> omega

end GridChess.Text
