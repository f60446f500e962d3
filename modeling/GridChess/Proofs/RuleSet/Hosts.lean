import GridChess.Proofs.Board.Relocate
import GridChess.Proofs.Match.Apply
import GridChess.Proofs.RuleSet.Geometry

/-!
# Boards in play

A rule set hosts a board whose pieces stand apart on its cells. The default boards are hosted, and
a move that the rules allow leads from a hosted board to a hosted board.
-/

set_option autoImplicit false

namespace GridChess.RuleSet

structure Hosts (rules : RuleSet) (board : Board) : Prop where
  apart : board.Apart
  inside : ∀ piece ∈ board.pieces, piece.position ∈ rules.cells

theorem Hosts.boardAfter (rules : RuleSet) (bounded : rules.Bounded) (board : Board)
    (hosts : rules.Hosts board) (piece : Piece) (move : Move)
    (allowed : rules.canMove board piece move.target = true) :
    rules.Hosts (rules.boardAfter board move) where
  apart := board.apart_relocate hosts.apart move.origin move.target _
  inside := by
    intro other member
    rcases board.mem_relocate move.origin move.target _ other member with stays | moved
    · exact hosts.inside other ((board.mem_staying_iff _ _ other).mp stays).1
    · obtain ⟨mover, _, rfl⟩ := moved
      exact bounded.target_mem board piece move.target allowed

namespace Flat

theorem hosts_defaultBoard : Hosts .flat defaultBoard where
  apart := by decide
  inside := by decide

theorem hosts_iff (board : Board) :
    Hosts .flat board ↔
      board.Apart ∧ ∀ piece ∈ board.pieces, piece.position.onFlatBoard = true := by
  constructor
  · intro hosts
    exact ⟨hosts.apart, fun piece member => (mem_cells_iff _).mp (hosts.inside piece member)⟩
  · rintro ⟨apart, inside⟩
    exact ⟨apart, fun piece member => (mem_cells_iff _).mpr (inside piece member)⟩

/-- A piece moves from a cell of the board to a cell of the board. -/
theorem onFlatBoard_of_canMove (board : Board) (piece : Piece) (target : Position)
    (allowed : canMove board piece target = true) :
    piece.position.onFlatBoard = true ∧ target.onFlatBoard = true :=
  ⟨(mem_cells_iff _).mp (bounded_flat.origin_mem board piece target allowed),
    (mem_cells_iff _).mp (bounded_flat.target_mem board piece target allowed)⟩

/-- No piece goes to the cell where it stands. -/
theorem target_ne (board : Board) (piece : Piece) (target : Position)
    (allowed : canMove board piece target = true) : piece.position ≠ target := by
  obtain ⟨file, rank, file', rank', stands, rfl⟩ := canMove_cells board piece target allowed
  have decision := (canMove_flat_iff board piece file rank file' rank' stands).mp allowed
  have moves := decision.2.2.1
  rw [stands]
  intro same
  injection same with files ranks
  omega

/-- No piece takes one of its own colour. -/
theorem occupant_colour (board : Board) (piece occupant : Piece) (target : Position)
    (allowed : canMove board piece target = true) (found : board.at? target = some occupant) :
    occupant.colour = piece.colour.opposite := by
  obtain ⟨file, rank, file', rank', stands, rfl⟩ := canMove_cells board piece target allowed
  have decision := (canMove_flat_iff board piece file rank file' rank' stands).mp allowed
  exact Colour.eq_opposite_of_ne _ _ (decision.2.2.2.1 occupant found)

end Flat

theorem Hyper.hosts_defaultBoard : Hosts .hyper defaultBoard where
  apart := by decide +kernel
  inside := by
    intro piece member
    have all : defaultBoard.pieces.all (·.position.onHyperBoard) = true := by decide +kernel
    exact (mem_cells_iff _).mpr (List.all_eq_true.mp all piece member)

theorem Shipped.hosts_defaultBoard (rules : RuleSet) (shipped : rules.Shipped) :
    rules.Hosts rules.defaultBoard := by
  cases shipped with
  | flat => exact Flat.hosts_defaultBoard
  | hyper => exact Hyper.hosts_defaultBoard

end GridChess.RuleSet
