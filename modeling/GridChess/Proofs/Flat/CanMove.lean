import GridChess.Proofs.Displacement.Between
import GridChess.RuleSet.Flat

/-!
# How pieces move on the flat board

The rules of the flat board in terms of ranks, files and occupied cells, without any walk:
`canMove_iff_shape` says that a piece may go to a cell exactly when both cells are different
cells of the board, no piece of its own colour stands on the target, and the displacement has
the shape that belongs to its kind.
-/

set_option autoImplicit false

namespace GridChess.RuleSet.Flat

open Displacement

/-- No piece stands strictly between a cell and the one `dx` files and `dy` ranks away, on the
line in the direction of the signs of `dx` and `dy`. -/
def IsOpen (board : Board) (file rank dx dy : Int) : Prop :=
  ∀ k : Nat, 0 < k → k < max dx.natAbs dy.natAbs →
    board.at? (.flat (file + k * dx.sign) (rank + k * dy.sign)) = none

/-- The displacements of a pawn. White pawns go up the ranks, and start on the second of them. -/
def PawnShape (board : Board) (colour : Colour) (file rank dx dy : Int) : Prop :=
  let occupant := board.at? (.flat (file + dx) (rank + dy))
  (colour = .white ∧ 0 < dy ∨ colour = .black ∧ dy < 0) ∧
    (occupant ≠ none ∧ dx.natAbs = 1 ∧ dy.natAbs = 1 ∨
      occupant = none ∧ dx = 0 ∧ dy.natAbs = 1 ∨
      occupant = none ∧ dx = 0 ∧ dy.natAbs = 2 ∧
        (colour = .white ∧ rank = 1 ∨ colour = .black ∧ rank = 6) ∧
        board.at? (.flat file (rank + dy.sign)) = none)

/-- The displacements of every kind, from a cell of the board to another one. -/
def Shape (board : Board) (piece : Piece) (file rank dx dy : Int) : Prop :=
  match piece.kind with
  | .king => max dx.natAbs dy.natAbs = 1
  | .knight => dx.natAbs = 1 ∧ dy.natAbs = 2 ∨ dx.natAbs = 2 ∧ dy.natAbs = 1
  | .rook => (dx = 0 ∧ dy ≠ 0 ∨ dx ≠ 0 ∧ dy = 0) ∧ IsOpen board file rank dx dy
  | .bishop => dx.natAbs = dy.natAbs ∧ IsOpen board file rank dx dy
  | .queen =>
    (dx = 0 ∧ dy ≠ 0 ∨ dx ≠ 0 ∧ dy = 0 ∨ dx.natAbs = dy.natAbs) ∧ IsOpen board file rank dx dy
  | .pawn => PawnShape board piece.colour file rank dx dy

theorem isClear_iff_isOpen (board : Board) (file rank file' rank' : Int) :
    isClear board [file, rank] [file', rank'] = true ↔
      IsOpen board file rank (file' - file) (rank' - rank) := by
  unfold isClear IsOpen
  rw [List.all_eq_true]
  have delta : difference [file, rank] [file', rank'] = [file' - file, rank' - rank] := rfl
  constructor
  · intro clear k positive inside
    have visited := (mem_between_iff _ [file, rank] [file', rank']).mpr
      ⟨k, positive, by rwa [delta, steps_pair], rfl⟩
    have vacant := clear _ visited
    simpa [delta, unit, ahead, Position.ofCoordinates, Board.isOccupied] using vacant
  · intro empty cell visited
    obtain ⟨k, positive, inside, rfl⟩ := (mem_between_iff _ _ _).mp visited
    rw [delta, steps_pair] at inside
    have vacant := empty k positive inside
    simpa [delta, unit, ahead, Position.ofCoordinates, Board.isOccupied] using vacant

/-- A piece moves in its manner: at once, or along an open line. -/
def Manner.Holds (board : Board) (file rank dx dy : Int) : Manner → Prop
  | .impossible => False
  | .leap => True
  | .slide => IsOpen board file rank dx dy

theorem holds_leapIf (board : Board) (file rank dx dy : Int) (condition : Bool) :
    (Manner.leapIf condition).Holds board file rank dx dy ↔ condition = true := by
  cases condition <;> simp [Manner.leapIf, Manner.Holds]

theorem holds_slideIf (board : Board) (file rank dx dy : Int) (condition : Bool) :
    (Manner.slideIf condition).Holds board file rank dx dy ↔
      condition = true ∧ IsOpen board file rank dx dy := by
  cases condition <;> simp [Manner.slideIf, Manner.Holds]

/-- On the double step of a pawn there is one cell to pass. -/
theorem isOpen_double_step (board : Board) (file rank dy : Int) (double : dy.natAbs = 2) :
    IsOpen board file rank 0 dy ↔ board.at? (.flat file (rank + dy.sign)) = none := by
  unfold IsOpen
  constructor
  · intro empty
    simpa using empty 1 (by decide) (by omega)
  · intro vacant k positive inside
    have one : k = 1 := by omega
    subst one
    simpa using vacant

theorem forward_iff (colour : Colour) (dy : Int) :
    0 < dy * forward colour ↔ colour = .white ∧ 0 < dy ∨ colour = .black ∧ dy < 0 := by
  cases colour <;> simp [forward]

theorem eq_pawnRank_iff (colour : Colour) (rank : Int) :
    rank = pawnRank colour ↔ colour = .white ∧ rank = 1 ∨ colour = .black ∧ rank = 6 := by
  cases colour <;> simp [pawnRank]

theorem pawnManner_holds_iff (board : Board) (colour : Colour) (file rank dx dy : Int) :
    (pawnManner colour rank dx dy (board.at? (.flat (file + dx) (rank + dy))).isSome).Holds
        board file rank dx dy ↔
      PawnShape board colour file rank dx dy := by
  unfold PawnShape pawnManner
  rw [← forward_iff, ← eq_pawnRank_iff]
  by_cases ahead : 0 < dy * forward colour
  · rw [if_neg (by omega)]
    cases board.at? (.flat (file + dx) (rank + dy)) with
    | some occupant => simp [holds_leapIf, ahead]
    | none =>
      by_cases single : dx = 0 ∧ dy.natAbs = 1
      · simp [single, ahead, Manner.Holds]
      · by_cases double : dx = 0 ∧ dy.natAbs = 2
        · obtain ⟨rfl, two⟩ := double
          have passed := isOpen_double_step board file rank dy two
          simp [holds_slideIf, ahead, two, passed]
        · have other : ¬(dx = 0 ∧ dy.natAbs = 2 ∧ rank = pawnRank colour) :=
            fun both => double ⟨both.1, both.2.1⟩
          have blocked : ∀ rest, ¬(dx = 0 ∧ dy.natAbs = 2 ∧ rest) :=
            fun rest both => double ⟨both.1, both.2.1⟩
          simp [holds_slideIf, ahead, single, blocked, and_assoc]
  · rw [if_pos (by omega)]
    simp [Manner.Holds, ahead]

theorem manner_holds_iff (board : Board) (piece : Piece) (file rank dx dy : Int)
    (moves : dx ≠ 0 ∨ dy ≠ 0) :
    (manner piece rank dx dy (board.at? (.flat (file + dx) (rank + dy))).isSome).Holds
        board file rank dx dy ↔
      Shape board piece file rank dx dy := by
  unfold manner Shape
  cases piece.kind with
  | king =>
    simp only [holds_leapIf, Bool.and_eq_true, decide_eq_true_eq]
    omega
  | knight =>
    simp only [holds_leapIf, Bool.or_eq_true, Bool.and_eq_true, decide_eq_true_eq]
  | rook =>
    simp only [holds_slideIf, isStraight_pair]
    have straight : dx = 0 ∨ dy = 0 ↔ dx = 0 ∧ dy ≠ 0 ∨ dx ≠ 0 ∧ dy = 0 := by omega
    rw [straight]
  | bishop =>
    simp only [holds_slideIf, isDiagonal_pair]
    have diagonal : dx ≠ 0 ∧ dx.natAbs = dy.natAbs ↔ dx.natAbs = dy.natAbs := by omega
    rw [diagonal]
  | queen =>
    simp only [holds_slideIf, Bool.or_eq_true, isStraight_pair, isDiagonal_pair]
    have aligned : (dx = 0 ∨ dy = 0) ∨ dx ≠ 0 ∧ dx.natAbs = dy.natAbs ↔
        dx = 0 ∧ dy ≠ 0 ∨ dx ≠ 0 ∧ dy = 0 ∨ dx.natAbs = dy.natAbs := by omega
    rw [aligned]
  | pawn => exact pawnManner_holds_iff board piece.colour file rank dx dy

theorem onFlatBoard_iff (file rank : Int) :
    (Position.flat file rank).onFlatBoard = true ↔ 0 ≤ file ∧ file < 8 ∧ 0 ≤ rank ∧ rank < 8 := by
  simp [Position.onFlatBoard, Position.within_iff, Position.flatSize, and_assoc]

/-- The decision between two flat cells, with the manner of the piece as a proposition. -/
theorem canMove_flat_iff (board : Board) (piece : Piece) (file rank file' rank' : Int)
    (stands : piece.position = .flat file rank) :
    canMove board piece (.flat file' rank') = true ↔
      (Position.flat file rank).onFlatBoard = true ∧
        (Position.flat file' rank').onFlatBoard = true ∧
        (file' - file ≠ 0 ∨ rank' - rank ≠ 0) ∧
        (∀ occupant, board.at? (.flat file' rank') = some occupant →
          occupant.colour ≠ piece.colour) ∧
        (manner piece rank (file' - file) (rank' - rank)
          (board.at? (.flat file' rank')).isSome).Holds board file rank (file' - file)
            (rank' - rank) := by
  unfold canMove
  rw [stands]
  simp only [Bool.and_eq_true, Option.all_eq_true, Bool.or_eq_true, decide_eq_true_eq,
    and_assoc]
  refine and_congr_right fun _ => and_congr_right fun _ => and_congr_right fun _ =>
    and_congr_right fun _ => ?_
  cases manner piece rank (file' - file) (rank' - rank)
    (board.at? (.flat file' rank')).isSome with
  | impossible => simp [Manner.Holds]
  | leap => simp [Manner.Holds]
  | slide => exact isClear_iff_isOpen board file rank file' rank'

theorem target_cell (file rank file' rank' : Int) :
    Position.flat (file + (file' - file)) (rank + (rank' - rank)) = .flat file' rank' := by
  rw [show file + (file' - file) = file' by omega, show rank + (rank' - rank) = rank' by omega]

/-- Off the flat board nothing moves. -/
theorem canMove_cells (board : Board) (piece : Piece) (target : Position)
    (allowed : canMove board piece target = true) :
    ∃ file rank file' rank', piece.position = .flat file rank ∧ target = .flat file' rank' := by
  unfold canMove at allowed
  split at allowed
  · rename_i file rank file' rank' stands
    exact ⟨file, rank, file', rank', stands, rfl⟩
  · cases allowed

/-- The movement rules of the flat board. -/
theorem canMove_iff_shape (board : Board) (piece : Piece) (target : Position) :
    canMove board piece target = true ↔
      ∃ file rank file' rank',
        piece.position = .flat file rank ∧ target = .flat file' rank' ∧
        (0 ≤ file ∧ file < 8 ∧ 0 ≤ rank ∧ rank < 8) ∧
        (0 ≤ file' ∧ file' < 8 ∧ 0 ≤ rank' ∧ rank' < 8) ∧
        (file, rank) ≠ (file', rank') ∧
        (∀ occupant, board.at? target = some occupant → occupant.colour ≠ piece.colour) ∧
        Shape board piece file rank (file' - file) (rank' - rank) := by
  constructor
  · intro allowed
    obtain ⟨file, rank, file', rank', stands, rfl⟩ := canMove_cells board piece target allowed
    obtain ⟨inside, inside', moves, free, goes⟩ :=
      (canMove_flat_iff board piece file rank file' rank' stands).mp allowed
    refine ⟨file, rank, file', rank', stands, rfl, ?_, ?_, ?_, free, ?_⟩
    · exact (onFlatBoard_iff file rank).mp inside
    · exact (onFlatBoard_iff file' rank').mp inside'
    · simp only [ne_eq, Prod.mk.injEq]
      omega
    · have goes' := manner_holds_iff board piece file rank (file' - file) (rank' - rank) moves
      rw [target_cell] at goes'
      exact goes'.mp goes
  · rintro ⟨file, rank, file', rank', stands, rfl, inside, inside', differ, free, shape⟩
    have moves : file' - file ≠ 0 ∨ rank' - rank ≠ 0 := by
      simp only [ne_eq, Prod.mk.injEq] at differ
      omega
    have goes := manner_holds_iff board piece file rank (file' - file) (rank' - rank) moves
    rw [target_cell] at goes
    exact (canMove_flat_iff board piece file rank file' rank' stands).mpr
      ⟨(onFlatBoard_iff file rank).mpr inside, (onFlatBoard_iff file' rank').mpr inside', moves,
        free, goes.mpr shape⟩

end GridChess.RuleSet.Flat
