import Mathlib.Data.List.Basic

/-!
# Lines of a text

A text that is made of lines without line breaks has these lines only (`unlines_injective`).
-/

set_option autoImplicit false

namespace GridChess.Text

/-- The text of some lines, each of which ends with a line break. -/
def unlines (lines : List (List Char)) : List Char := lines.flatMap (· ++ ['\n'])

def IsUnbroken (line : List Char) : Prop := '\n' ∉ line

instance (line : List Char) : Decidable (IsUnbroken line) :=
  inferInstanceAs (Decidable ('\n' ∉ line))

theorem IsUnbroken.append (line rest : List Char) (unbroken : IsUnbroken line)
    (unbroken' : IsUnbroken rest) : IsUnbroken (line ++ rest) :=
  fun member => (List.mem_append.mp member).elim unbroken unbroken'

theorem IsUnbroken.singleton (c : Char) (other : c ≠ '\n') : IsUnbroken [c] :=
  fun member => other (List.mem_singleton.mp member).symm

theorem unbroken_intercalate (texts : List (List Char))
    (unbroken : ∀ text ∈ texts, IsUnbroken text) : IsUnbroken ([' '].intercalate texts) := by
  induction texts with
  | nil => exact List.not_mem_nil
  | cons text texts ih =>
    have first := unbroken text (by simp)
    have later := ih fun other member => unbroken other (by simp [member])
    cases texts with
    | nil => simpa using first
    | cons next texts =>
      rw [List.intercalate_cons_cons]
      exact (first.append _ _ (by decide)).append _ _ later

theorem unlines_cons (line : List Char) (lines : List (List Char)) :
    unlines (line :: lines) = line ++ '\n' :: unlines lines := by
  simp [unlines]

theorem unlines_append (lines lines' : List (List Char)) :
    unlines (lines ++ lines') = unlines lines ++ unlines lines' := List.flatMap_append

/-- The first line of a text goes up to its first line break. -/
theorem takeWhile_line (line rest : List Char) (unbroken : IsUnbroken line) :
    (line ++ '\n' :: rest).takeWhile (· ≠ '\n') = line := by
  rw [List.takeWhile_append_of_pos]
  · simp
  · intro c member
    exact decide_eq_true fun same => unbroken (same ▸ member)

theorem line_injective (line line' rest rest' : List Char) (unbroken : IsUnbroken line)
    (unbroken' : IsUnbroken line') (same : line ++ '\n' :: rest = line' ++ '\n' :: rest') :
    line = line' ∧ rest = rest' := by
  have first : line = line' := by
    rw [← takeWhile_line line rest unbroken, same, takeWhile_line line' rest' unbroken']
  subst first
  exact ⟨rfl, (List.cons.inj (List.append_cancel_left same)).2⟩

theorem unlines_injective (lines lines' : List (List Char))
    (unbroken : ∀ line ∈ lines, IsUnbroken line) (unbroken' : ∀ line ∈ lines', IsUnbroken line)
    (same : unlines lines = unlines lines') : lines = lines' := by
  induction lines generalizing lines' with
  | nil =>
    cases lines' with
    | nil => rfl
    | cons line' lines' => simp [unlines] at same
  | cons line lines ih =>
    cases lines' with
    | nil => simp [unlines] at same
    | cons line' lines' =>
      rw [unlines_cons, unlines_cons] at same
      obtain ⟨rfl, rest⟩ := line_injective line line' _ _ (unbroken line (by simp))
        (unbroken' line' (by simp)) same
      rw [ih lines' (fun other member => unbroken other (by simp [member]))
        (fun other member => unbroken' other (by simp [member])) rest]

end GridChess.Text
