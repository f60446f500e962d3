import GridChess.Board

/-!
# Finding pieces on a board

On a board whose pieces stand apart, looking up a cell finds the one piece that stands on it
(`at?_eq_some_iff`). Pieces on `invalid` stand apart from everything, and are never found.
-/

set_option autoImplicit false

namespace GridChess.Board

/-- No two pieces share a cell. -/
def Apart (board : Board) : Prop :=
  board.pieces.Pairwise fun a b => a.position.sameCell b.position = false

instance (board : Board) : Decidable board.Apart :=
  inferInstanceAs (Decidable (List.Pairwise _ _))

theorem at?_invalid (board : Board) : board.at? .invalid = none := by
  unfold at?
  rw [List.find?_eq_none]
  intro piece _ same
  exact (Position.sameCell_iff.mp same).2 (Position.sameCell_iff.mp same).1

/-- Whatever is found on a cell is a piece of the board that stands there. -/
theorem mem_of_at? (board : Board) (p : Position) (piece : Piece)
    (found : board.at? p = some piece) :
    piece ∈ board.pieces ∧ piece.position = p ∧ p ≠ .invalid := by
  unfold at? at found
  have member := List.mem_of_find?_eq_some found
  have test := List.find?_some found
  have same := Position.sameCell_iff.mp test
  exact ⟨member, same.1, same.1 ▸ same.2⟩

theorem find?_of_pairwise (pieces : List Piece) (piece : Piece)
    (apart : pieces.Pairwise fun a b => a.position.sameCell b.position = false)
    (member : piece ∈ pieces) (valid : piece.position ≠ .invalid) :
    pieces.find? (·.position.sameCell piece.position) = some piece := by
  induction pieces with
  | nil => cases member
  | cons first rest ih =>
    obtain ⟨away, apart⟩ := List.pairwise_cons.mp apart
    cases member with
    | head => exact List.find?_cons_of_pos (Position.sameCell_iff.mpr ⟨rfl, valid⟩)
    | tail _ member =>
      rw [List.find?_cons_of_neg (by simpa using away piece member)]
      exact ih apart member

theorem at?_of_mem (board : Board) (piece : Piece) (apart : board.Apart)
    (member : piece ∈ board.pieces) (valid : piece.position ≠ .invalid) :
    board.at? piece.position = some piece :=
  find?_of_pairwise board.pieces piece apart member valid

theorem at?_eq_some_iff (board : Board) (p : Position) (piece : Piece) (apart : board.Apart) :
    board.at? p = some piece ↔ piece ∈ board.pieces ∧ piece.position = p ∧ p ≠ .invalid := by
  constructor
  · exact mem_of_at? board p piece
  · rintro ⟨member, rfl, valid⟩
    exact at?_of_mem board piece apart member valid

end GridChess.Board
