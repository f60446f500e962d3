import GridChess.Match

/-!
# What a move does

The one way in which a move can be applied, to a board and to a match: some piece stands on its
origin, the rules let that piece go to its target, and the piece is relocated.
-/

set_option autoImplicit false

namespace GridChess

/-- The board after a move is made, whose turn it then is included. -/
def RuleSet.boardAfter (rules : RuleSet) (board : Board) (move : Move) : Board :=
  board.relocate move.origin move.target (nextPlayer rules.colours board.turn)

theorem RuleSet.applyMove_eq_ok_iff (rules : RuleSet) (board next : Board) (move : Move) :
    rules.applyMove board move = .ok next ↔
      ∃ piece, board.at? move.origin = some piece ∧
        rules.canMove board piece move.target = true ∧ rules.boardAfter board move = next := by
  unfold applyMove boardAfter
  cases board.at? move.origin with
  | none => simp
  | some piece =>
    by_cases allowed : rules.canMove board piece move.target = true
    · simp [allowed]
    · simp [allowed]

/-- A move that cannot be made is reported by its cells, whatever the reason. -/
theorem RuleSet.applyMove_eq_error_iff (rules : RuleSet) (board : Board) (move : Move)
    (fault : Error) :
    rules.applyMove board move = .error fault ↔
      (∀ piece, board.at? move.origin = some piece →
        rules.canMove board piece move.target = false) ∧
      fault = .illegalMove move.origin move.target := by
  unfold applyMove
  cases board.at? move.origin with
  | none => simp [@eq_comm _ fault]
  | some piece =>
    cases allowed : rules.canMove board piece move.target with
    | false => simp [allowed, @eq_comm _ fault]
    | true => simp [allowed]

theorem Match.apply_eq_ok_iff (game next : Match) (move : Move) :
    game.apply move = .ok next ↔
      ∃ piece, game.board.at? move.origin = some piece ∧ piece.colour = game.board.turn ∧
        game.rules.canMove game.board piece move.target = true ∧
        { game with
          board := game.rules.boardAfter game.board move
          moves := game.moves ++ [move] } = next := by
  unfold apply
  cases found : game.board.at? move.origin with
  | none => simp
  | some piece =>
    by_cases own : piece.colour = game.board.turn
    · cases applied : game.rules.applyMove game.board move with
      | error fault =>
        have refused : game.rules.canMove game.board piece move.target ≠ true := by
          intro allowed
          have accepted := (game.rules.applyMove_eq_ok_iff game.board _ move).mpr
            ⟨piece, found, allowed, rfl⟩
          rw [applied] at accepted
          cases accepted
        simp [own, refused, bind, Except.bind]
      | ok board =>
        obtain ⟨same, found', allowed, rfl⟩ :=
          (game.rules.applyMove_eq_ok_iff game.board board move).mp applied
        rw [found] at found'
        cases found'
        simp [own, allowed, bind, Except.bind, pure, Except.pure]
    · simp [own]

end GridChess
