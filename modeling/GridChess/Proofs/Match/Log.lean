import GridChess.Proofs.Match.Run
import GridChess.Proofs.RuleSet.LegalMoves
import GridChess.Proofs.RuleSet.Texts

/-!
# The log

The log of a match that was begun without one leads from the first board to the present one: by
applying its moves in order, and by playing them by the texts of their cells (`log_replays`). The
players take turns in it.
-/

set_option autoImplicit false

namespace GridChess

/-- The colour to move after `n` moves, if the first one is made by this colour. -/
def Colour.alternate (first : Colour) (n : Nat) : Colour :=
  if n % 2 = 0 then first else first.opposite

theorem Colour.alternate_succ (first : Colour) (n : Nat) :
    first.alternate (n + 1) = first.opposite.alternate n := by
  unfold alternate
  by_cases even : n % 2 = 0
  · rw [if_neg (by omega), if_pos even]
  · rw [if_pos (by omega), if_neg even, opposite_opposite]

theorem RuleSet.Shipped.nextPlayer (rules : RuleSet) (shipped : rules.Shipped)
    (current : Colour) : nextPlayer rules.colours current = current.opposite := by
  cases shipped with
  | flat => cases current <;> rfl
  | hyper => cases current <;> rfl

/-- The call that plays a move by the texts of its cells. -/
def Move.toPlay (move : Move) : Match.Call :=
  .play (toString move.origin) (toString move.target) move.time

namespace Match

theorem turn_after (game : Match) (shipped : game.rules.Shipped) (move : Move) :
    (game.after move).board.turn = game.board.turn.opposite :=
  RuleSet.Shipped.nextPlayer game.rules shipped game.board.turn

theorem Accepts.applyMove_eq (game : Match) (move : Move) (piece : Piece)
    (accepts : game.Accepts move piece) :
    game.rules.applyMove game.board move = .ok (game.after move).board :=
  (game.rules.applyMove_eq_ok_iff _ _ move).mpr ⟨piece, accepts.found, accepts.allowed, rfl⟩

/-- Moves that a match applies in order, its rules apply in order to its board. -/
theorem foldlM_applyMove (game final : Match) (moves : List Move)
    (applied : game.applyAll moves = .ok final) :
    moves.foldlM game.rules.applyMove game.board = .ok final.board := by
  induction moves generalizing game with
  | nil =>
    cases applied
    rfl
  | cons move rest ih =>
    obtain ⟨piece, accepts, applied⟩ := game.applyAll_cons_eq_ok final move rest applied
    rw [List.foldlM_cons, accepts.applyMove_eq, ok_bind]
    exact ih (game.after move) applied

theorem turn_applyAll (game final : Match) (shipped : game.rules.Shipped) (moves : List Move)
    (applied : game.applyAll moves = .ok final) :
    final.board.turn = game.board.turn.alternate moves.length := by
  induction moves generalizing game with
  | nil =>
    cases applied
    rfl
  | cons move rest ih =>
    obtain ⟨piece, accepts, applied⟩ := game.applyAll_cons_eq_ok final move rest applied
    rw [ih (game.after move) shipped applied, game.turn_after shipped move, List.length_cons,
      Colour.alternate_succ]

/-- The pieces moved belong to the players in turn. -/
theorem mover_applyAll (game final : Match) (shipped : game.rules.Shipped) (moves : List Move)
    (applied : game.applyAll moves = .ok final) (i : Nat) (move : Move)
    (listed : moves[i]? = some move) :
    ∃ before piece, (moves.take i).foldlM game.rules.applyMove game.board = .ok before ∧
      before.at? move.origin = some piece ∧ piece.colour = game.board.turn.alternate i := by
  induction moves generalizing game i with
  | nil => cases listed
  | cons first rest ih =>
    obtain ⟨piece, accepts, applied⟩ := game.applyAll_cons_eq_ok final first rest applied
    cases i with
    | zero =>
      cases listed
      exact ⟨game.board, piece, rfl, accepts.found, accepts.own⟩
    | succ i =>
      obtain ⟨before, mover, reached, found, turn⟩ := ih (game.after first) shipped applied i listed
      refine ⟨before, mover, ?_, found, ?_⟩
      · rw [List.take_succ_cons, List.foldlM_cons, accepts.applyMove_eq, ok_bind]
        exact reached
      · rw [turn, game.turn_after shipped first, Colour.alternate_succ]

/-- A move that is accepted can be played by the texts of its cells, whatever kind it names. -/
theorem call_toPlay (game : Match) (shipped : game.rules.Shipped) (move : Move) (piece : Piece)
    (accepts : game.Accepts move piece) :
    game.call move.toPlay = .ok (game.after { move with kind := piece.kind }) := by
  have bounded := RuleSet.Shipped.bounded game.rules shipped
  have reads := RuleSet.Shipped.readPosition?_eq_some_iff game.rules shipped
  obtain ⟨_, stands, _⟩ := game.board.mem_of_at? move.origin piece accepts.found
  have origin := bounded.origin_mem game.board piece move.target accepts.allowed
  have target := bounded.target_mem game.board piece move.target accepts.allowed
  rw [stands] at origin
  have played := game.play_eq_apply (toString move.origin) (toString move.target) move.time
    move.origin move.target piece ((reads _ _).mpr ⟨origin, rfl⟩)
    ((reads _ _).mpr ⟨target, rfl⟩) accepts.found
  exact played.trans (game.apply_of_accepts _ piece
    ⟨accepts.found, accepts.own, accepts.allowed⟩)

/-- Moves that were applied in order can be played in order by the texts of their cells. The log
of that may name other kinds, so the two matches share their rules and their board only. -/
theorem foldlM_toPlay (game again final : Match) (shipped : game.rules.Shipped)
    (moves : List Move) (applied : game.applyAll moves = .ok final)
    (rules : again.rules = game.rules) (board : again.board = game.board) :
    ∃ replayed, (moves.map Move.toPlay).foldlM call again = .ok replayed ∧
      replayed.board = final.board := by
  induction moves generalizing game again with
  | nil =>
    cases applied
    exact ⟨again, rfl, board⟩
  | cons move rest ih =>
    obtain ⟨piece, accepts, applied⟩ := game.applyAll_cons_eq_ok final move rest applied
    have accepts' : again.Accepts move piece :=
      ⟨board ▸ accepts.found, board ▸ accepts.own, board ▸ rules ▸ accepts.allowed⟩
    have played := again.call_toPlay (rules ▸ shipped) move piece accepts'
    have same : (again.after { move with kind := piece.kind }).board = (game.after move).board := by
      unfold after
      rw [rules, board]
      rfl
    obtain ⟨replayed, succeeds, ends⟩ := ih (game.after move)
      (again.after { move with kind := piece.kind }) shipped applied rules same
    refine ⟨replayed, ?_, ends⟩
    rw [List.map_cons, List.foldlM_cons, played, ok_bind]
    exact succeeds

/-- The log of a match that was begun without one is complete: the rules apply its moves in order
to the first board and reach the present one, the players having moved in turn, and so does
playing them by the texts of their cells. -/
theorem log_replays (game : Match) (shipped : game.rules.Shipped) (fresh : game.moves = [])
    (calls : List Call) :
    (game.run calls).moves.foldlM game.rules.applyMove game.board = .ok (game.run calls).board ∧
    (∀ i move, (game.run calls).moves[i]? = some move →
      ∃ before piece,
        ((game.run calls).moves.take i).foldlM game.rules.applyMove game.board = .ok before ∧
        before.at? move.origin = some piece ∧ piece.colour = game.board.turn.alternate i) ∧
    (game.run calls).board.turn = game.board.turn.alternate (game.run calls).moves.length ∧
    ∃ replayed, ((game.run calls).moves.map Move.toPlay).foldlM call game = .ok replayed ∧
      replayed.board = (game.run calls).board := by
  have logged := game.moves_run calls
  rw [fresh, List.nil_append] at logged
  have applied := game.applyAll_run calls
  rw [← logged] at applied
  exact ⟨game.foldlM_applyMove _ _ applied, game.mover_applyAll _ shipped _ applied,
    game.turn_applyAll _ shipped _ applied, game.foldlM_toPlay game _ shipped _ applied rfl rfl⟩

theorem log_replays_gambit :
    (Match.new .flat none).rules.Shipped ∧ (Match.new .flat none).moves = [] ∧
      ((Match.new .flat none).run gambit).moves.length = 3 ∧
      ∃ replayed, (((Match.new .flat none).run gambit).moves.map Move.toPlay).foldlM call
          (Match.new .flat none) = .ok replayed ∧
        replayed.board = ((Match.new .flat none).run gambit).board := by
  have replays := log_replays (Match.new .flat none) .flat rfl gambit
  exact ⟨.flat, rfl, by decide, replays.2.2.2⟩

end Match

end GridChess
