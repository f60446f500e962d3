import GridChess.Proofs.Flat.CanMove

/-!
# What kinds of pieces keep to

However the board looks, a bishop goes to cells of the colour that it stands on, a knight to cells
of the other colour, and a pawn up the ranks or down the ranks, as its colour says (`Gait`). The
colour of a cell changes with every odd sum of files and ranks.
-/

set_option autoImplicit false

namespace GridChess

namespace Position

theorem cellColour_flat (file rank : Int) :
    (flat file rank).cellColour = if (file + rank) % 2 = 0 then .black else .white := by
  simp [cellColour, coordinates]

theorem cellColour_of_even (file rank dx dy : Int) (even : (dx + dy) % 2 = 0) :
    (flat (file + dx) (rank + dy)).cellColour = (flat file rank).cellColour := by
  have parity : (file + dx + (rank + dy)) % 2 = (file + rank) % 2 := by omega
  rw [cellColour_flat, cellColour_flat, parity]

theorem cellColour_of_odd (file rank dx dy : Int) (odd : (dx + dy) % 2 = 1) :
    (flat (file + dx) (rank + dy)).cellColour = (flat file rank).cellColour.opposite := by
  rw [cellColour_flat, cellColour_flat]
  by_cases even : (file + rank) % 2 = 0
  · rw [if_pos even, if_neg (by omega)]
    rfl
  · rw [if_neg even, if_pos (by omega)]
    rfl

end Position

namespace RuleSet.Flat

/-- What the kind of a piece says about the cells that it may go to, in any position. -/
structure Gait (piece : Piece) (target : Position) : Prop where
  bishop : piece.kind = .bishop → target.cellColour = piece.position.cellColour
  knight : piece.kind = .knight → target.cellColour = piece.position.cellColour.opposite
  /-- White pawns go up the ranks and black ones go down. -/
  pawn : piece.kind = .pawn → ∃ file rank file' rank',
    piece.position = .flat file rank ∧ target = .flat file' rank' ∧
      (piece.colour = .white → rank < rank') ∧ (piece.colour = .black → rank' < rank)

/-- A move has the shape that belongs to the kind of the piece. -/
theorem shape_of_canMove (board : Board) (piece : Piece) (target : Position)
    (allowed : canMove board piece target = true) :
    ∃ file rank dx dy, piece.position = .flat file rank ∧
      target = .flat (file + dx) (rank + dy) ∧ Shape board piece file rank dx dy := by
  obtain ⟨file, rank, file', rank', stands, rfl⟩ := canMove_cells board piece target allowed
  obtain ⟨_, _, moves, _, goes⟩ :=
    (canMove_flat_iff board piece file rank file' rank' stands).mp allowed
  have shape := manner_holds_iff board piece file rank (file' - file) (rank' - rank) moves
  rw [target_cell] at shape
  exact ⟨file, rank, file' - file, rank' - rank, stands, (target_cell _ _ _ _).symm,
    shape.mp goes⟩

theorem gait_of_canMove (board : Board) (piece : Piece) (target : Position)
    (allowed : canMove board piece target = true) : Gait piece target := by
  obtain ⟨file, rank, dx, dy, stands, rfl, shape⟩ := shape_of_canMove board piece target allowed
  unfold Shape at shape
  refine ⟨?_, ?_, ?_⟩
  · intro kind
    simp only [kind] at shape
    rw [stands]
    exact Position.cellColour_of_even file rank dx dy (by omega)
  · intro kind
    simp only [kind] at shape
    rw [stands]
    exact Position.cellColour_of_odd file rank dx dy (by omega)
  · intro kind
    simp only [kind] at shape
    refine ⟨file, rank, file + dx, rank + dy, stands, rfl, ?_, ?_⟩
    · intro white
      rcases shape.1 with ⟨_, up⟩ | ⟨black, _⟩
      · omega
      · rw [white] at black
        cases black
    · intro black
      rcases shape.1 with ⟨white, _⟩ | ⟨_, down⟩
      · rw [black] at white
        cases white
      · omega

end RuleSet.Flat

end GridChess
