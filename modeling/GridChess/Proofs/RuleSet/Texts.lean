import GridChess.Proofs.Position.Text
import GridChess.Proofs.RuleSet.Geometry

/-!
# Cells by their texts

A rule set reads a text as a cell exactly if the cell is one of its own and the text is the text
of that cell. Every other text is refused, whether or not it is the text of some position
(`ReadsExactly`), and no text is a cell of both boards.
-/

set_option autoImplicit false

namespace GridChess.RuleSet

theorem readFlat?_eq_some_iff (text : String) (p : Position) :
    Position.readFlat? text = some p ↔ p ∈ Flat.cells ∧ toString p = text := by
  rw [Flat.mem_cells_iff]
  constructor
  · exact Position.toString_of_readFlat? text p
  · rintro ⟨inside, rfl⟩
    exact Position.readFlat?_of_onFlatBoard p inside

theorem readHyper?_eq_some_iff (text : String) (p : Position) :
    Position.readHyper? text = some p ↔ p ∈ Hyper.cells ∧ toString p = text := by
  rw [Hyper.mem_cells_iff]
  constructor
  · exact Position.toString_of_readHyper? text p
  · rintro ⟨inside, rfl⟩
    exact Position.readHyper?_of_onHyperBoard p inside

theorem Shipped.readPosition?_eq_some_iff (rules : RuleSet) (shipped : rules.Shipped)
    (text : String) (p : Position) :
    rules.readPosition? text = some p ↔ p ∈ rules.cells ∧ toString p = text := by
  cases shipped with
  | flat => exact readFlat?_eq_some_iff text p
  | hyper => exact readHyper?_eq_some_iff text p

/-- The rule set reads a text as a position exactly if the position is one of these and the text
is its own. All other texts are refused as they stand, those of other positions among them. -/
structure ReadsExactly (rules : RuleSet) (inside : Position → Bool) : Prop where
  reads : ∀ text p, rules.readPosition text = .ok p ↔ inside p = true ∧ toString p = text
  refuses : ∀ text fault, rules.readPosition text = .error fault ↔
    (∀ p, inside p = true → toString p ≠ text) ∧ fault = .invalidFormat text
  own : ∀ p, (∃ q, rules.readPosition (toString p) = .ok q) ↔ inside p = true

theorem readsExactly_of_reads (rules : RuleSet) (inside : Position → Bool)
    (reads : ∀ text p, rules.readPosition? text = some p ↔ inside p = true ∧ toString p = text)
    (back : ∀ p, rules.readPosition? (toString p) = if inside p = true then some p else none) :
    rules.ReadsExactly inside where
  reads := by
    intro text p
    rw [readPosition_eq_ok_iff, reads]
  refuses := by
    intro text fault
    rw [readPosition_eq_error_iff, Option.eq_none_iff_forall_ne_some]
    refine and_congr_left fun _ => forall_congr' fun p => ?_
    rw [ne_eq, reads, not_and]
  own := by
    intro p
    simp only [readPosition_eq_ok_iff, back]
    constructor
    · rintro ⟨q, read⟩
      exact (Option.ite_none_right_eq_some.mp read).1
    · intro shown
      exact ⟨p, if_pos shown⟩

theorem readsExactly_flat : ReadsExactly .flat Position.onFlatBoard :=
  readsExactly_of_reads .flat _
    (fun text p => by rw [← Flat.mem_cells_iff]; exact readFlat?_eq_some_iff text p)
    Position.readFlat?_toString

theorem readsExactly_hyper : ReadsExactly .hyper Position.onHyperBoard :=
  readsExactly_of_reads .hyper _
    (fun text p => by rw [← Hyper.mem_cells_iff]; exact readHyper?_eq_some_iff text p)
    Position.readHyper?_toString

/-- The cells of a board and their texts belong to each other: the text of a cell is read as that
cell, and whatever is read is the text of a cell. Nothing else is read, not even if it is the text
of a position off the board or of the other board, and no text is read on both boards. -/
theorem texts_belong_to_cells :
    ReadsExactly .flat Position.onFlatBoard ∧ ReadsExactly .hyper Position.onHyperBoard ∧
      ∀ text p q, ¬(flat.readPosition text = .ok p ∧ hyper.readPosition text = .ok q) := by
  refine ⟨readsExactly_flat, readsExactly_hyper, ?_⟩
  rintro text p q ⟨first, second⟩
  obtain ⟨onFlat, shown⟩ := (readsExactly_flat.reads text p).mp first
  obtain ⟨onHyper, shown'⟩ := (readsExactly_hyper.reads text q).mp second
  have same := Position.eq_of_chars_flat q p onFlat
    (Position.chars_eq_of_toString_eq q p (shown'.trans shown.symm))
  subst same
  cases q with
  | flat file rank => cases onHyper
  | hyper x y z w => cases onFlat
  | invalid => cases onFlat

end GridChess.RuleSet
