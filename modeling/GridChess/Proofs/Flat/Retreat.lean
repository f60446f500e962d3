import GridChess.Proofs.Displacement.Segment
import GridChess.Proofs.Flat.Sight
import GridChess.Proofs.RuleSet.Application

/-!
# Taking moves back

A piece other than a pawn goes back the way it came: the opposite displacement has the same manner
(`manner_back`), and the cells in between are the same and still empty (`isClear_back`). So a move
to an empty cell can be taken back by the next move, which restores the board up to the order of its
pieces (`quiet_move_undone`).
-/

set_option autoImplicit false

namespace GridChess.RuleSet.Flat

open Displacement

theorem isStraight_back (dx dy : Int) : isStraight [-dx, -dy] = isStraight [dx, dy] := by
  rw [Bool.eq_iff_iff, isStraight_pair, isStraight_pair]
  omega

theorem isDiagonal_back (dx dy : Int) : isDiagonal [-dx, -dy] = isDiagonal [dx, dy] := by
  rw [Bool.eq_iff_iff, isDiagonal_pair, isDiagonal_pair]
  omega

/-- Pawns aside, the manner of a piece is the same in opposite directions. It depends neither on the
rank nor on what is captured, nor on where the piece stands. -/
theorem manner_back (piece : Piece) (officer : piece.kind ≠ .pawn) (position : Position)
    (rank rank' dx dy : Int) (captures captures' : Bool) :
    manner { piece with position } rank' (-dx) (-dy) captures' =
      manner piece rank dx dy captures := by
  unfold manner
  cases kind : piece.kind with
  | king => simp only [Int.natAbs_neg]
  | knight => simp only [Int.natAbs_neg]
  | queen => simp only [isStraight_back, isDiagonal_back]
  | bishop => simp only [isDiagonal_back]
  | rook => simp only [isStraight_back]
  | pawn => exact absurd kind officer

theorem isLine_of_aligned (dx dy : Int) (aligned : Aligned dx dy) : IsLine [dx, dy] := by
  intro d member
  rw [steps_pair]
  unfold Aligned at aligned
  simp only [List.mem_cons, List.not_mem_nil, or_false] at member
  omega

/-- Once a piece has gone along a clear line, the line is clear on its way back. -/
theorem isClear_back (board : Board) (file rank file' rank' : Int) (turn : Colour)
    (aligned : Aligned (file' - file) (rank' - rank))
    (clear : isClear board [file, rank] [file', rank'] = true) :
    isClear (board.relocate (.flat file rank) (.flat file' rank') turn) [file', rank']
      [file, rank] = true := by
  have line : IsLine (difference [file, rank] [file', rank']) := isLine_of_aligned _ _ aligned
  unfold isClear at clear ⊢
  rw [between_reverse [file, rank] [file', rank'] rfl line, List.all_reverse]
  rw [List.all_eq_true] at clear ⊢
  intro cell member
  have vacant := clear cell member
  have inside := inside_of_mem_between [file, rank] [file', rank'] rfl line cell member
  obtain ⟨k, _, _, rfl⟩ := (mem_between_iff cell [file, rank] [file', rank']).mp member
  unfold Board.isOccupied at vacant ⊢
  -- Only the target has been filled, and it is not one of the cells.
  rw [Board.at?_relocate_of_ne]
  · split
    · rfl
    · exact vacant
  · intro arrived
    exact inside.ne_target (congrArg Position.coordinates arrived)

/-- A leap is taken back by a leap, and a slide by the slide through the same cells. -/
theorem holds_back (board : Board) (piece : Piece) (officer : piece.kind ≠ .pawn)
    (file rank file' rank' : Int) (turn : Colour)
    (goes : (manner piece rank (file' - file) (rank' - rank) false).Holds board file rank
      (file' - file) (rank' - rank)) :
    (manner { piece with position := .flat file' rank' } rank' (file - file') (rank - rank')
        false).Holds (board.relocate (.flat file rank) (.flat file' rank') turn) file' rank'
      (file - file') (rank - rank') := by
  have manners := manner_back piece officer (.flat file' rank') rank rank' (file' - file)
    (rank' - rank) false false
  rw [Int.neg_sub, Int.neg_sub] at manners
  rw [manners]
  cases slides : manner piece rank (file' - file) (rank' - rank) false with
  | impossible =>
    rw [slides] at goes
    exact goes
  | leap => trivial
  | slide =>
    rw [slides] at goes
    have clear := (isClear_iff_isOpen board file rank file' rank').mpr goes
    have aligned := aligned_of_manner piece rank _ _ _ slides
    exact (isClear_iff_isOpen _ file' rank' file rank).mp
      (isClear_back board file rank file' rank' turn aligned clear)

/-- Where a piece has gone without capturing anything, it may go back. -/
theorem canMove_back (board : Board) (piece : Piece) (officer : piece.kind ≠ .pawn)
    (target : Position) (turn : Colour) (quiet : board.at? target = none)
    (allowed : canMove board piece target = true) :
    canMove (board.relocate piece.position target turn) { piece with position := target }
      piece.position = true := by
  obtain ⟨file, rank, file', rank', stands, rfl⟩ := canMove_cells board piece target allowed
  obtain ⟨first, last, moves, _, goes⟩ :=
    (canMove_flat_iff board piece file rank file' rank' stands).mp allowed
  rw [stands]
  have left : (board.relocate (.flat file rank) (.flat file' rank') turn).at?
      (.flat file rank) = none := by
    rw [Board.at?_relocate_of_ne, if_pos rfl]
    intro same
    cases same
    omega
  refine (canMove_flat_iff _ _ file' rank' file rank rfl).mpr ⟨last, first, by omega, ?_, ?_⟩
  · intro occupant found
    rw [left] at found
    cases found
  · rw [quiet] at goes
    rw [left]
    exact holds_back board piece officer file rank file' rank' turn goes

theorem nextPlayer_nextPlayer (turn : Colour) :
    nextPlayer flat.colours (nextPlayer flat.colours turn) = turn := by
  cases turn <;> rfl

/-- A move of anything but a pawn to an empty cell is taken back by the move to where it came from,
whatever kind and time that move is given. The board is then as it was, except that the piece goes
last. -/
theorem quiet_move_undone (board next : Board) (apart : board.Apart) (move : Move) (piece : Piece)
    (found : board.at? move.origin = some piece) (officer : piece.kind ≠ .pawn)
    (quiet : board.at? move.target = none) (applied : flat.applyMove board move = .ok next)
    (kind : Kind) (time : Duration) :
    ∃ last, flat.applyMove next ⟨kind, move.target, move.origin, time⟩ = .ok last ∧
      last.turn = board.turn ∧
      last.pieces = board.staying move.origin move.target ++ [piece] ∧
      last.pieces.Perm board.pieces := by
  obtain ⟨mover, found', allowed, rfl⟩ := (flat.applyMove_eq_ok_iff board next move).mp applied
  rw [found] at found'
  cases found'
  obtain ⟨_, stands, _⟩ := board.mem_of_at? move.origin piece found
  have differ : move.origin ≠ move.target := by
    intro same
    rw [← same, found] at quiet
    cases quiet
  have relocated := flat.relocates_boardAfter board apart piece move found
  have moved := relocated.target (by
    obtain ⟨_, _, _, _, _, cell⟩ := canMove_cells board piece move.target allowed
    rw [cell]
    intro nowhere
    cases nowhere)
  have back := canMove_back board piece officer move.target
    (nextPlayer flat.colours board.turn) quiet allowed
  rw [stands] at back
  have pieces := board.pieces_relocate_back move.origin move.target
    (nextPlayer flat.colours board.turn)
    (nextPlayer flat.colours (nextPlayer flat.colours board.turn)) piece found moved
  refine ⟨_, (flat.applyMove_eq_ok_iff _ _ _).mpr ⟨_, moved, back, rfl⟩,
    nextPlayer_nextPlayer board.turn, pieces, ?_⟩
  have whole := board.perm_staying apart move.origin move.target differ
  rw [found, quiet] at whole
  refine (List.Perm.of_eq pieces).trans (List.perm_append_comm.trans ?_)
  exact whole.symm

/-- A queen goes past a rook of her own, along a diagonal and back. -/
theorem quiet_move_undone_queen :
    ∃ next last,
      flat.applyMove ⟨[⟨.queen, .white, .flat 3 0⟩, ⟨.rook, .white, .flat 4 0⟩,
        ⟨.pawn, .black, .flat 3 1⟩], .white⟩ ⟨.queen, .flat 3 0, .flat 7 4, .zero⟩ = .ok next ∧
      flat.applyMove next ⟨.pawn, .flat 7 4, .flat 3 0, .zero⟩ = .ok last ∧
      last.turn = .white ∧
      last.pieces = [⟨.rook, .white, .flat 4 0⟩, ⟨.pawn, .black, .flat 3 1⟩,
        ⟨.queen, .white, .flat 3 0⟩] := by
  obtain ⟨last, taken, turn, pieces, _⟩ :=
    quiet_move_undone ⟨[⟨.queen, .white, .flat 3 0⟩, ⟨.rook, .white, .flat 4 0⟩,
        ⟨.pawn, .black, .flat 3 1⟩], .white⟩ _ (by decide)
      ⟨.queen, .flat 3 0, .flat 7 4, .zero⟩ _ rfl (by decide) rfl rfl .pawn .zero
  exact ⟨_, last, rfl, taken, turn, pieces⟩

end GridChess.RuleSet.Flat
