import GridChess.Proofs.Flat.CanMove
import GridChess.Proofs.MoveTree.Step
import Mathlib.Data.List.Perm.Basic

/-!
# Reflections

The rules of the flat board do not tell left from right, and treat the two colours alike. Turning
the board upside down while exchanging the colours, or exchanging its files from left to right,
commutes with all that the rules decide (`rules_respect_reflection`).
-/

set_option autoImplicit false

namespace GridChess

inductive Reflection where
  /-- Exchanges the ranks from bottom to top, and the colours. -/
  | ranks
  /-- Exchanges the files from left to right. -/
  | files
  deriving DecidableEq, Repr

namespace Reflection

def file : Reflection → Int → Int
  | .ranks, file => file
  | .files, file => 7 - file

def rank : Reflection → Int → Int
  | .ranks, rank => 7 - rank
  | .files, rank => rank

def colour : Reflection → Colour → Colour
  | .ranks, colour => colour.opposite
  | .files, colour => colour

/-- Positions off the flat board have no image of their own, and stay. -/
def cell (r : Reflection) : Position → Position
  | .flat file rank => .flat (r.file file) (r.rank rank)
  | p => p

def piece (r : Reflection) (piece : Piece) : Piece :=
  ⟨piece.kind, r.colour piece.colour, r.cell piece.position⟩

/-- The pieces keep their order. -/
def board (r : Reflection) (board : Board) : Board :=
  ⟨board.pieces.map r.piece, r.colour board.turn⟩

def move (r : Reflection) (move : Move) : Move :=
  { move with origin := r.cell move.origin, target := r.cell move.target }

variable (r : Reflection)

/-! ## Colours and cells -/

@[simp]
theorem colour_colour (c : Colour) : r.colour (r.colour c) = c := by
  cases r <;> simp [colour]

theorem colour_eq_iff (c d : Colour) : r.colour c = r.colour d ↔ c = d := by
  constructor
  · intro same
    rw [← r.colour_colour c, same, r.colour_colour]
  · rintro rfl
    rfl

@[simp]
theorem cell_cell (p : Position) : r.cell (r.cell p) = p := by
  cases p with
  | flat file rank =>
    cases r
    · simp only [cell, Reflection.file, Reflection.rank, Int.sub_sub_self]
    · simp only [cell, Reflection.file, Reflection.rank, Int.sub_sub_self]
  | hyper x y z w => rfl
  | invalid => rfl

theorem cell_eq_iff (p q : Position) : r.cell p = r.cell q ↔ p = q := by
  constructor
  · intro same
    rw [← r.cell_cell p, same, r.cell_cell]
  · rintro rfl
    rfl

theorem sameCell_cell (p q : Position) : (r.cell p).sameCell (r.cell q) = p.sameCell q := by
  have valid : r.cell p = .invalid ↔ p = .invalid := r.cell_eq_iff p .invalid
  rw [Bool.eq_iff_iff, Position.sameCell_iff, Position.sameCell_iff, cell_eq_iff, ne_eq, valid]

theorem onFlatBoard_cell (p : Position) : (r.cell p).onFlatBoard = p.onFlatBoard := by
  cases p with
  | flat file rank =>
    rw [Bool.eq_iff_iff, cell, RuleSet.Flat.onFlatBoard_iff, RuleSet.Flat.onFlatBoard_iff]
    cases r
    · simp only [Reflection.file, Reflection.rank]
      omega
    · simp only [Reflection.file, Reflection.rank]
      omega
  | hyper x y z w => rfl
  | invalid => rfl

/-! ## Boards -/

theorem at?_board (board : Board) (p : Position) :
    (r.board board).at? (r.cell p) = (board.at? p).map r.piece := by
  unfold Board.at? Reflection.board
  rw [List.find?_map]
  congr 2
  funext other
  exact r.sameCell_cell other.position p

theorem isOccupied_board (board : Board) (p : Position) :
    (r.board board).isOccupied (r.cell p) = board.isOccupied p := by
  unfold Board.isOccupied
  rw [at?_board, Option.isSome_map]

theorem relocate_board (board : Board) (origin target : Position) (turn : Colour) :
    (r.board board).relocate (r.cell origin) (r.cell target) (r.colour turn) =
      r.board (board.relocate origin target turn) := by
  have moved : (((board.at? origin).map r.piece).map fun piece : Piece =>
      { piece with position := r.cell target }) =
      ((board.at? origin).map fun piece => { piece with position := target }).map r.piece := by
    rw [Option.map_map, Option.map_map]
    rfl
  unfold Board.relocate
  rw [at?_board, moved]
  simp only [Reflection.board, List.filter_map, List.map_append, Option.toList_map]
  congr 3
  apply List.filter_congr
  intro piece _
  simp only [Function.comp_apply, Reflection.piece, sameCell_cell]

@[simp]
theorem piece_piece (piece : Piece) : r.piece (r.piece piece) = piece := by
  simp [Reflection.piece]

/-- A reflection made twice leaves the board as it was. -/
@[simp]
theorem board_board (board : Board) : r.board (r.board board) = board := by
  simp [Reflection.board, Function.comp_def]

/-! ## Displacements -/

/-- The image of a displacement along the files. -/
def across : Reflection → Int → Int
  | .ranks, dx => dx
  | .files, dx => -dx

/-- The image of a displacement along the ranks. -/
def along : Reflection → Int → Int
  | .ranks, dy => -dy
  | .files, dy => dy

theorem file_sub (file file' : Int) : r.file file' - r.file file = r.across (file' - file) := by
  unfold Reflection.file across
  cases r
  · rfl
  · dsimp only
    omega

theorem rank_sub (rank rank' : Int) : r.rank rank' - r.rank rank = r.along (rank' - rank) := by
  unfold Reflection.rank along
  cases r
  · dsimp only
    omega
  · rfl

@[simp]
theorem natAbs_across (dx : Int) : (r.across dx).natAbs = dx.natAbs := by
  cases r <;> simp [across]

@[simp]
theorem natAbs_along (dy : Int) : (r.along dy).natAbs = dy.natAbs := by
  cases r <;> simp [along]

@[simp]
theorem across_eq_zero_iff (dx : Int) : r.across dx = 0 ↔ dx = 0 := by
  cases r <;> simp [across]

@[simp]
theorem along_eq_zero_iff (dy : Int) : r.along dy = 0 ↔ dy = 0 := by
  cases r <;> simp [along]

theorem isStraight_image (dx dy : Int) :
    Displacement.isStraight [r.across dx, r.along dy] = Displacement.isStraight [dx, dy] := by
  rw [Bool.eq_iff_iff, Displacement.isStraight_pair, Displacement.isStraight_pair,
    across_eq_zero_iff, along_eq_zero_iff]

theorem isDiagonal_image (dx dy : Int) :
    Displacement.isDiagonal [r.across dx, r.along dy] = Displacement.isDiagonal [dx, dy] := by
  rw [Bool.eq_iff_iff, Displacement.isDiagonal_pair, Displacement.isDiagonal_pair, ne_eq,
    across_eq_zero_iff, natAbs_across, natAbs_along]

/-- The cells passed on the way are reflected as well. -/
theorem cell_ahead (file rank dx dy : Int) (k : Nat) :
    r.cell (.flat (file + k * dx.sign) (rank + k * dy.sign)) =
      .flat (r.file file + k * (r.across dx).sign) (r.rank rank + k * (r.along dy).sign) := by
  cases r <;>
    simp only [cell, Reflection.file, Reflection.rank, across, along, Int.sign_neg, Int.mul_neg,
      Int.sub_eq_add_neg, Int.neg_add, Int.add_assoc]

/-! ## Decisions -/

open RuleSet RuleSet.Flat

/-- Pawns start on opposite ranks and go in opposite directions. -/
theorem pawnManner_image (colour : Colour) (rank dx dy : Int) (captures : Bool) :
    pawnManner (r.colour colour) (r.rank rank) (r.across dx) (r.along dy) captures =
      pawnManner colour rank dx dy captures := by
  have ahead : r.along dy * forward (r.colour colour) = dy * forward colour := by
    cases r <;> cases colour <;>
      simp [along, Reflection.colour, Colour.opposite, forward]
  have start : r.rank rank = pawnRank (r.colour colour) ↔ rank = pawnRank colour := by
    cases r <;> cases colour <;>
      simp only [Reflection.rank, Reflection.colour, Colour.opposite, pawnRank] <;> omega
  unfold pawnManner
  simp only [ahead, start, natAbs_across, natAbs_along, across_eq_zero_iff]

theorem manner_image (piece : Piece) (rank dx dy : Int) (captures : Bool) :
    manner (r.piece piece) (r.rank rank) (r.across dx) (r.along dy) captures =
      manner piece rank dx dy captures := by
  unfold manner Reflection.piece
  cases piece.kind with
  | king => simp only [natAbs_across, natAbs_along]
  | queen => simp only [isStraight_image, isDiagonal_image]
  | bishop => simp only [isDiagonal_image]
  | knight => simp only [natAbs_across, natAbs_along]
  | rook => simp only [isStraight_image]
  | pawn => exact r.pawnManner_image piece.colour rank dx dy captures

theorem isOpen_board (board : Board) (file rank dx dy : Int) :
    Flat.IsOpen (r.board board) (r.file file) (r.rank rank) (r.across dx) (r.along dy) ↔
      Flat.IsOpen board file rank dx dy := by
  unfold Flat.IsOpen
  simp only [natAbs_across, natAbs_along, ← cell_ahead, at?_board, Option.map_eq_none_iff]

theorem holds_board (board : Board) (file rank dx dy : Int) (manner : Manner) :
    manner.Holds (r.board board) (r.file file) (r.rank rank) (r.across dx) (r.along dy) ↔
      manner.Holds board file rank dx dy := by
  cases manner with
  | impossible => exact Iff.rfl
  | leap => exact Iff.rfl
  | slide => exact r.isOpen_board board file rank dx dy

theorem canMove_image (board : Board) (piece : Piece) (target : Position)
    (allowed : canMove board piece target = true) :
    canMove (r.board board) (r.piece piece) (r.cell target) = true := by
  obtain ⟨file, rank, file', rank', stands, rfl⟩ := canMove_cells board piece target allowed
  obtain ⟨first, last, moves, free, goes⟩ :=
    (canMove_flat_iff board piece file rank file' rank' stands).mp allowed
  have stands' : (r.piece piece).position = .flat (r.file file) (r.rank rank) :=
    congrArg r.cell stands
  have target' : Position.flat (r.file file') (r.rank rank') = r.cell (.flat file' rank') := rfl
  refine (canMove_flat_iff (r.board board) (r.piece piece) _ _ (r.file file') (r.rank rank')
    stands').mpr ⟨?_, ?_, ?_, ?_, ?_⟩
  · exact (r.onFlatBoard_cell (.flat file rank)).trans first
  · exact (r.onFlatBoard_cell (.flat file' rank')).trans last
  · rw [file_sub, rank_sub, ne_eq, ne_eq, across_eq_zero_iff, along_eq_zero_iff]
    exact moves
  · intro occupant found
    rw [target', at?_board, Option.map_eq_some_iff] at found
    obtain ⟨other, found, rfl⟩ := found
    intro same
    exact free other found ((r.colour_eq_iff _ _).mp same)
  · rw [target', at?_board, Option.isSome_map, file_sub, rank_sub, manner_image, holds_board]
    exact goes

theorem canMove_board (board : Board) (piece : Piece) (target : Position) :
    canMove (r.board board) (r.piece piece) (r.cell target) = canMove board piece target := by
  rw [Bool.eq_iff_iff]
  constructor
  · intro allowed
    simpa using r.canMove_image _ _ _ allowed
  · exact r.canMove_image board piece target

/-! ## Moves -/

theorem nextPlayer_image (turn : Colour) :
    nextPlayer flat.colours (r.colour turn) = r.colour (nextPlayer flat.colours turn) := by
  cases r <;> cases turn <;> rfl

theorem applyMove_image (board : Board) (move : Move) :
    (flat.applyMove (r.board board) (r.move move)).toOption =
      (flat.applyMove board move).toOption.map r.board := by
  unfold applyMove
  simp only [Reflection.move, at?_board]
  cases board.at? move.origin with
  | none => rfl
  | some piece =>
    have decision : flat.canMove (r.board board) (r.piece piece) (r.cell move.target) =
        flat.canMove board piece move.target := r.canMove_board board piece move.target
    simp only [Option.map_some, decision]
    split
    · have turn := r.nextPlayer_image board.turn
      have relocated := r.relocate_board board move.origin move.target
        (nextPlayer flat.colours board.turn)
      rw [← turn] at relocated
      exact congrArg some relocated
    · rfl

/-! ## Lists of moves -/

theorem cells_perm : (cells.map r.cell).Perm cells := by
  refine (List.perm_ext_iff_of_nodup ?_ nodup_cells).mpr fun p => ?_
  · exact nodup_map _ _ nodup_cells fun p q same => (r.cell_eq_iff p q).mp same
  · rw [List.mem_map, mem_cells_iff]
    constructor
    · rintro ⟨q, member, rfl⟩
      rw [onFlatBoard_cell]
      exact (mem_cells_iff q).mp member
    · intro inside
      exact ⟨r.cell p, (mem_cells_iff _).mpr ((r.onFlatBoard_cell p).trans inside), r.cell_cell p⟩

theorem movesOf_perm (board : Board) (time : Duration) (piece : Piece) :
    (flat.movesOf (r.board board) time (r.piece piece)).Perm
      ((flat.movesOf board time piece).map r.move) := by
  have reached : (flat.reachable (r.board board) (r.piece piece)).Perm
      ((flat.reachable board piece).map r.cell) := by
    have listed := r.cells_perm.symm.filter (flat.canMove (r.board board) (r.piece piece))
    rw [List.filter_map] at listed
    have decision : flat.canMove (r.board board) (r.piece piece) ∘ r.cell =
        flat.canMove board piece := funext (r.canMove_board board piece)
    rw [decision] at listed
    exact listed
  unfold movesOf
  rw [List.map_map]
  refine (reached.map _).trans ?_
  rw [List.map_map]
  rfl

theorem legalMoves_image (board : Board) (time : Duration) :
    (flat.legalMoves (r.board board) time).Perm ((flat.legalMoves board time).map r.move) := by
  have own : (fun piece : Piece => decide (piece.colour = (r.board board).turn)) ∘ r.piece =
      fun piece => decide (piece.colour = board.turn) := by
    funext piece
    exact decide_eq_decide.mpr (r.colour_eq_iff piece.colour board.turn)
  have movers : (r.board board).pieces.filter (·.colour = (r.board board).turn) =
      (board.pieces.filter (·.colour = board.turn)).map r.piece := by
    rw [← own]
    exact List.filter_map
  rw [legalMoves_eq_flatMap, legalMoves_eq_flatMap, movers, List.flatMap_map, List.map_flatMap]
  exact List.Perm.flatMap_left _ fun piece _ => r.movesOf_perm board time piece

/-! ## Counts -/

theorem countNodes_image (depth : Nat) (board : Board) :
    flat.countNodes depth (r.board board) = flat.countNodes depth board := by
  induction depth generalizing board with
  | zero => rfl
  | succ depth ih =>
    have perm := r.legalMoves_image board .zero
    cases depth with
    | zero =>
      rw [countNodes_one _ _ .zero, countNodes_one _ board .zero,
        NodeCount.sum_perm _ _ (perm.map _), List.map_map]
      congr 1
      apply List.map_congr_left
      intro move _
      have taken := r.isOccupied_board board move.target
      simp only [Function.comp_apply, Reflection.move, taken]
    | succ depth =>
      rw [countNodes_succ_succ, countNodes_succ_succ, expanded_eq_sum, expanded_eq_sum,
        NodeCount.sum_perm _ _ (perm.map _), List.map_map]
      congr 1
      apply List.map_congr_left
      intro move _
      have counts : flat.countNodes (depth + 1) ∘ r.board = flat.countNodes (depth + 1) :=
        funext ih
      rw [Function.comp_apply, applyMove_image, Option.map_map, counts]

/-- What the rules of the flat board decide for a reflected board is the reflection of what they
decide for the board: which piece may go where, which moves can be made and where they lead, with
the pieces in the same order, and which moves are listed. So as many lines are counted to any
depth. Of the board nothing is asked, not even that its pieces stand apart on cells. -/
theorem rules_respect_reflection (board : Board) :
    (∀ piece target, flat.canMove (r.board board) (r.piece piece) (r.cell target) =
      flat.canMove board piece target) ∧
    (∀ move, (flat.applyMove (r.board board) (r.move move)).toOption =
      (flat.applyMove board move).toOption.map r.board) ∧
    (∀ time, (flat.legalMoves (r.board board) time).Perm
      ((flat.legalMoves board time).map r.move)) ∧
    (∀ depth, flat.countNodes depth (r.board board) = flat.countNodes depth board) :=
  ⟨r.canMove_board board, r.applyMove_image board, r.legalMoves_image board,
    fun depth => r.countNodes_image depth board⟩

end Reflection

end GridChess
