import GridChess.Proofs.Flat.CanMove

/-!
# What a piece depends on

A piece slides along ranks, files and diagonals only. So all cells that it passes on the way to a
cell of the board are cells of the board, and where it may go is decided by what stands on the
board alone (`canMove_congr`).
-/

set_option autoImplicit false

namespace GridChess.RuleSet.Flat

/-- A displacement along a rank, a file or a diagonal. -/
def Aligned (dx dy : Int) : Prop := dx = 0 ∨ dy = 0 ∨ dx.natAbs = dy.natAbs

theorem leapIf_ne_slide (condition : Bool) : Manner.leapIf condition ≠ .slide := by
  cases condition <;> decide

theorem slideIf_eq_slide_iff (condition : Bool) :
    Manner.slideIf condition = .slide ↔ condition = true := by
  cases condition <;> decide

theorem aligned_of_pawnManner (colour : Colour) (rank dx dy : Int) (captures : Bool)
    (slides : pawnManner colour rank dx dy captures = .slide) : Aligned dx dy := by
  unfold pawnManner at slides
  split at slides
  · cases slides
  · split at slides
    · exact absurd slides (leapIf_ne_slide _)
    · split at slides
      · cases slides
      · have condition := (slideIf_eq_slide_iff _).mp slides
        simp only [Bool.and_eq_true, decide_eq_true_eq] at condition
        exact Or.inl condition.1.1

theorem aligned_of_manner (piece : Piece) (rank dx dy : Int) (captures : Bool)
    (slides : manner piece rank dx dy captures = .slide) : Aligned dx dy := by
  unfold manner at slides
  unfold Aligned
  cases kind : piece.kind with
  | king =>
    rw [kind] at slides
    exact absurd slides (leapIf_ne_slide _)
  | knight =>
    rw [kind] at slides
    exact absurd slides (leapIf_ne_slide _)
  | queen =>
    simp only [kind, slideIf_eq_slide_iff, Bool.or_eq_true, Displacement.isStraight_pair,
      Displacement.isDiagonal_pair] at slides
    omega
  | bishop =>
    simp only [kind, slideIf_eq_slide_iff, Displacement.isDiagonal_pair] at slides
    omega
  | rook =>
    simp only [kind, slideIf_eq_slide_iff, Displacement.isStraight_pair] at slides
    omega
  | pawn =>
    rw [kind] at slides
    exact aligned_of_pawnManner piece.colour rank dx dy captures slides

theorem passed_onFlatBoard (file rank dx dy : Int) (k : Nat) (aligned : Aligned dx dy)
    (passed : k < max dx.natAbs dy.natAbs)
    (first : (Position.flat file rank).onFlatBoard = true)
    (last : (Position.flat (file + dx) (rank + dy)).onFlatBoard = true) :
    (Position.flat (file + k * dx.sign) (rank + k * dy.sign)).onFlatBoard = true := by
  obtain ⟨wide, wide', high, high'⟩ := (onFlatBoard_iff _ _).mp first
  obtain ⟨wide₂, wide₂', high₂, high₂'⟩ := (onFlatBoard_iff _ _).mp last
  unfold Aligned at aligned
  have files := Displacement.coordinate_within file (file + dx) k (by omega)
  have ranks := Displacement.coordinate_within rank (rank + dy) k (by omega)
  rw [show file + dx - file = dx by omega] at files
  rw [show rank + dy - rank = dy by omega] at ranks
  exact (onFlatBoard_iff _ _).mpr (by omega)

/-- Two boards look the same on all cells of the flat board. -/
def SameCells (board board' : Board) : Prop :=
  ∀ p : Position, p.onFlatBoard = true → board.at? p = board'.at? p

theorem SameCells.symm (board board' : Board) (same : SameCells board board') :
    SameCells board' board :=
  fun p inside => (same p inside).symm

theorem isOpen_of_sameCells (board board' : Board) (same : SameCells board board')
    (file rank dx dy : Int) (aligned : Aligned dx dy)
    (first : (Position.flat file rank).onFlatBoard = true)
    (last : (Position.flat (file + dx) (rank + dy)).onFlatBoard = true)
    (clear : IsOpen board file rank dx dy) : IsOpen board' file rank dx dy := by
  intro k positive passed
  rw [← same _ (passed_onFlatBoard file rank dx dy k aligned passed first last)]
  exact clear k positive passed

theorem canMove_of_sameCells (board board' : Board) (same : SameCells board board')
    (piece : Piece) (target : Position) (allowed : canMove board piece target = true) :
    canMove board' piece target = true := by
  obtain ⟨file, rank, file', rank', stands, rfl⟩ := canMove_cells board piece target allowed
  obtain ⟨first, last, moves, free, goes⟩ :=
    (canMove_flat_iff board piece file rank file' rank' stands).mp allowed
  rw [same _ last] at free goes
  refine (canMove_flat_iff board' piece file rank file' rank' stands).mpr
    ⟨first, last, moves, free, ?_⟩
  cases slides : manner piece rank (file' - file) (rank' - rank)
      (board'.at? (.flat file' rank')).isSome with
  | impossible =>
    rw [slides] at goes
    exact goes
  | leap => trivial
  | slide =>
    rw [slides] at goes
    refine isOpen_of_sameCells board board' same file rank _ _
      (aligned_of_manner piece rank _ _ _ slides) first ?_ goes
    rw [target_cell]
    exact last

/-- Nothing else about a board matters to the decision. -/
theorem canMove_congr (board board' : Board) (same : SameCells board board') (piece : Piece)
    (target : Position) : canMove board piece target = canMove board' piece target := by
  rw [Bool.eq_iff_iff]
  exact ⟨canMove_of_sameCells board board' same piece target,
    canMove_of_sameCells board' board same.symm piece target⟩

end GridChess.RuleSet.Flat
