import GridChess.Proofs.Match.Run
import GridChess.Proofs.RuleSet.Hosts

/-!
# Material

The pieces of a match on the flat board. They stand apart on its cells throughout the match. A
move puts its piece last and takes off the board nothing but what stood on the target, which
belongs to the other colour, so the captures of a run account for every piece that is lost
(`run_keeps_material`).
-/

set_option autoImplicit false

namespace GridChess

namespace Board

/-- The number of pieces of one kind and colour. -/
def count (board : Board) (kind : Kind) (colour : Colour) : Nat :=
  board.pieces.countP fun piece => piece.kind = kind && piece.colour = colour

/-- How a move of the piece to the target changes the pieces. -/
structure Exchange (before after : Board) (piece : Piece) (target : Position) : Prop where
  /-- The piece is the last one, of the kind and the colour that it had. -/
  pieces : after.pieces =
    before.staying piece.position target ++ [{ piece with position := target }]
  /-- The other pieces that are left keep their order. -/
  order : (before.staying piece.position target).Sublist before.pieces
  /-- Nothing is lost but what stood on the target. -/
  material : before.pieces.Perm
    (piece :: ((before.at? target).toList ++ before.staying piece.position target))
  opposed : ∀ taken, before.at? target = some taken → taken.colour = piece.colour.opposite

theorem exchange_relocate (board : Board) (apart : board.Apart) (piece : Piece)
    (target : Position) (turn : Colour) (found : board.at? piece.position = some piece)
    (differ : piece.position ≠ target)
    (opposed : ∀ taken, board.at? target = some taken → taken.colour = piece.colour.opposite) :
    board.Exchange (board.relocate piece.position target turn) piece target where
  pieces := board.pieces_relocate piece.position target turn piece found
  order := List.filter_sublist
  material := by
    have split := board.perm_staying apart piece.position target differ
    rw [found] at split
    exact split
  opposed := opposed

namespace Exchange

variable (before after : Board) (piece : Piece) (target : Position)

theorem size_eq (exchange : before.Exchange after piece target) :
    after.size + (if before.isOccupied target then 1 else 0) = before.size := by
  have lengths := exchange.material.length_eq
  unfold Board.size
  rw [exchange.pieces]
  unfold Board.isOccupied
  cases found : before.at? target with
  | none =>
    rw [found] at lengths
    simpa using lengths.symm
  | some taken =>
    rw [found] at lengths
    simpa using lengths.symm

/-- Pieces of a sort that no piece comes to belong to by moving do not become more. -/
theorem countP_le (exchange : before.Exchange after piece target) (sort : Piece → Bool)
    (belonged : sort { piece with position := target } = true → sort piece = true) :
    after.pieces.countP sort ≤ before.pieces.countP sort := by
  rw [exchange.pieces, exchange.material.countP_eq]
  simp only [List.countP_append, List.countP_cons, List.countP_nil]
  by_cases moved : sort { piece with position := target } = true
  · rw [if_pos moved, if_pos (belonged moved)]
    omega
  · rw [if_neg moved]
    omega

end Exchange

end Board

namespace Match

/-- A match in play on the flat board. -/
def OnFlatBoard (game : Match) : Prop := game.rules = .flat ∧ RuleSet.flat.Hosts game.board

theorem Accepts.exchange (game : Match) (flat : game.OnFlatBoard) (move : Move) (piece : Piece)
    (accepts : game.Accepts move piece) :
    game.board.Exchange (game.after move).board piece move.target := by
  obtain ⟨rules, hosts⟩ := flat
  have allowed := accepts.allowed
  rw [rules] at allowed
  have found := accepts.found
  obtain ⟨_, stands, _⟩ := game.board.mem_of_at? move.origin piece found
  rw [← stands] at found
  unfold after RuleSet.boardAfter
  rw [← stands]
  exact game.board.exchange_relocate hosts.apart piece move.target _ found
    (RuleSet.Flat.target_ne game.board piece move.target allowed)
    fun taken => RuleSet.Flat.occupant_colour game.board piece taken move.target allowed

theorem OnFlatBoard.after (game : Match) (flat : game.OnFlatBoard) (move : Move) (piece : Piece)
    (accepts : game.Accepts move piece) : (game.after move).OnFlatBoard := by
  obtain ⟨rules, hosts⟩ := flat
  have allowed := accepts.allowed
  rw [rules] at allowed
  refine ⟨rules, ?_⟩
  unfold Match.after
  rw [rules]
  exact RuleSet.Hosts.boardAfter .flat RuleSet.bounded_flat game.board hosts piece move allowed

theorem OnFlatBoard.run (game : Match) (flat : game.OnFlatBoard) (calls : List Call) :
    (game.run calls).OnFlatBoard :=
  run_induction OnFlatBoard (fun game move piece flat accepts => flat.after game move piece accepts)
    game flat calls

/-- The captures of a run are the pieces that are missing after it. -/
theorem size_run (game : Match) (flat : game.OnFlatBoard) (calls : List Call) :
    (game.run calls).board.size +
        (game.plies calls).countP (fun ply => ply.board.isOccupied ply.move.target) =
      game.board.size := by
  refine plies_induction
    (fun before plies after => before.OnFlatBoard →
      after.board.size + plies.countP (fun ply => ply.board.isOccupied ply.move.target) =
        before.board.size) ?_ ?_ game calls flat
  · intro game _
    rfl
  · intro game move piece plies final accepts later flat
    have rest := later (flat.after game move piece accepts)
    have now := (accepts.exchange game flat move piece).size_eq
    rw [List.countP_cons]
    dsimp only
    omega

/-- Pieces of a sort that no piece comes to belong to by moving do not become more in a run. -/
theorem countP_run_le (game : Match) (flat : game.OnFlatBoard) (calls : List Call)
    (sort : Piece → Bool)
    (belonged : ∀ board piece target, RuleSet.Flat.canMove board piece target = true →
      sort { piece with position := target } = true → sort piece = true) :
    (game.run calls).board.pieces.countP sort ≤ game.board.pieces.countP sort := by
  have reached := run_induction
    (fun reached => reached.OnFlatBoard ∧
      reached.board.pieces.countP sort ≤ game.board.pieces.countP sort) ?_
    game ⟨flat, Nat.le_refl _⟩ calls
  · exact reached.2
  · rintro reached move piece ⟨flat, bounded⟩ accepts
    have allowed := accepts.allowed
    rw [flat.1] at allowed
    have step := (accepts.exchange reached flat move piece).countP_le _ _ _ _ sort
      (belonged reached.board piece move.target allowed)
    exact ⟨flat.after reached move piece accepts, Nat.le_trans step bounded⟩

theorem count_run_le (game : Match) (flat : game.OnFlatBoard) (calls : List Call) (kind : Kind)
    (colour : Colour) : (game.run calls).board.count kind colour ≤ game.board.count kind colour :=
  game.countP_run_le flat calls _ fun _ _ _ _ kept => kept

/-- On the flat board, pieces that start on different cells of the board stand on different cells
of the board after every run, whether or not its calls succeed. A call that succeeds there
exchanges pieces as described (`Board.Exchange`). The size of the board is what it was, less the
number of accepted moves to occupied cells, and no more calls ever bring more pieces of any kind
and colour. -/
theorem run_keeps_material (game : Match) (rules : game.rules = .flat)
    (apart : game.board.Apart)
    (inside : ∀ piece ∈ game.board.pieces, piece.position.onFlatBoard = true)
    (calls : List Call) :
    ((game.run calls).board.Apart ∧
      ∀ piece ∈ (game.run calls).board.pieces, piece.position.onFlatBoard = true) ∧
    (∀ c next, (game.run calls).call c = .ok next →
      ∃ move piece, (game.run calls).requested c = .ok move ∧
        (game.run calls).board.at? move.origin = some piece ∧
        (game.run calls).board.Exchange next.board piece move.target) ∧
    (game.run calls).board.size +
        (game.plies calls).countP (fun ply => ply.board.isOccupied ply.move.target) =
      game.board.size ∧
    (∀ more kind colour, (game.run (calls ++ more)).board.count kind colour ≤
      (game.run calls).board.count kind colour) := by
  have flat : game.OnFlatBoard := ⟨rules, (RuleSet.Flat.hosts_iff _).mpr ⟨apart, inside⟩⟩
  have reached := flat.run game calls
  refine ⟨(RuleSet.Flat.hosts_iff _).mp reached.2, ?_, game.size_run flat calls, ?_⟩
  · intro c next succeeds
    obtain ⟨move, piece, asked, accepts, rfl⟩ := (call_eq_ok_iff _ next c).mp succeeds
    exact ⟨move, piece, asked, accepts.found, accepts.exchange _ reached move piece⟩
  · intro more kind colour
    rw [run_append]
    exact count_run_le _ reached more kind colour

/-- From the default board, the one capture of the opening leaves 31 of 32 pieces. -/
theorem run_keeps_material_gambit :
    (Match.new .flat none).rules = .flat ∧ (Match.new .flat none).board.Apart ∧
      (∀ piece ∈ (Match.new .flat none).board.pieces, piece.position.onFlatBoard = true) ∧
      ((Match.new .flat none).run gambit).board.size = 31 := by
  have hosts := (RuleSet.Flat.hosts_iff _).mp RuleSet.Flat.hosts_defaultBoard
  have kept := run_keeps_material (Match.new .flat none) rfl hosts.1 hosts.2 gambit
  have taken : ((Match.new .flat none).plies gambit).countP
      (fun ply => ply.board.isOccupied ply.move.target) = 1 := by decide
  have start : (Match.new .flat none).board.size = 32 := by decide
  have sizes := kept.2.2.1
  exact ⟨rfl, hosts.1, hosts.2, by omega⟩

end Match

end GridChess
