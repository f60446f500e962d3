import GridChess.Proofs.Match.Run

/-!
# Calls that fail

Which calls fail, with which error, and that they leave no trace: not even on a match that is
changed in place, step by step, where a failing step would leave behind whatever earlier steps
changed (`Update.run_call`). So the calls of a run that fail may as well be left out.
-/

set_option autoImplicit false

namespace GridChess.Match

/-! ## Changing a match in place -/

/-- Steps that change a match. A step that fails does not undo the earlier ones. -/
abbrev Update := ExceptT Error (StateM Match)

namespace Update

/-- The outcome of the steps and the match they leave behind. -/
def run (update : Update Unit) (game : Match) : Except Error Unit × Match :=
  (ExceptT.run update).run game

def ofExcept {α : Type} : Except Error α → Update α
  | .ok a => pure a
  | .error fault => throw fault

/-- Applies a move: the board is replaced first, and then the move is logged. -/
def apply (move : Move) : Update Unit := do
  let game ← get
  match game.board.at? move.origin with
  | none => throw (.illegalMove move.origin move.target)
  | some piece =>
    if piece.colour = game.board.turn then
      let board ← ofExcept (game.rules.applyMove game.board move)
      modify fun game => { game with board }
      modify fun game => { game with moves := game.moves ++ [move] }
    else throw (.illegalMove move.origin move.target)

def play (origin target : String) (time : Duration) : Update Unit := do
  let game ← get
  let origin ← ofExcept (game.rules.readPosition origin)
  let target ← ofExcept (game.rules.readPosition target)
  match game.board.at? origin with
  | none => throw (.illegalMove origin target)
  | some piece => apply { kind := piece.kind, origin, target, time }

def call : Call → Update Unit
  | .apply move => apply move
  | .play origin target time => play origin target time

theorem run_get (next : Match → Update Unit) (game : Match) :
    run (get >>= next) game = run (next game) game := rfl

theorem run_ofExcept_ok {α : Type} (a : α) (next : α → Update Unit) (game : Match) :
    run (ofExcept (.ok a) >>= next) game = run (next a) game := rfl

/-- What is left behind if a new match is either taken over as a whole, or not at all. -/
def committed (game : Match) : Except Error Match → Except Error Unit × Match
  | .ok next => (.ok (), next)
  | .error fault => (.error fault, game)

theorem run_apply (move : Move) (game : Match) :
    (apply move).run game = committed game (game.apply move) := by
  unfold apply Match.apply
  rw [run_get]
  cases game.board.at? move.origin with
  | none => rfl
  | some piece =>
    by_cases own : piece.colour = game.board.turn
    · simp only [own, if_true]
      cases game.rules.applyMove game.board move with
      | error fault => rfl
      | ok board => rfl
    · simp only [own, if_false]
      rfl

theorem run_play (origin target : String) (time : Duration) (game : Match) :
    (play origin target time).run game = committed game (game.play origin target time) := by
  unfold play Match.play
  rw [run_get]
  cases game.rules.readPosition origin with
  | error fault => rfl
  | ok p =>
    rw [run_ofExcept_ok]
    cases game.rules.readPosition target with
    | error fault => rfl
    | ok q =>
      rw [run_ofExcept_ok]
      simp only [ok_bind]
      cases game.board.at? p with
      | none => rfl
      | some piece => exact run_apply _ game

/-- A call changes the match as a whole, or not at all. -/
theorem run_call (c : Call) (game : Match) :
    (call c).run game = committed game (game.call c) := by
  cases c with
  | apply move => exact run_apply move game
  | play origin target time => exact run_play origin target time game

end Update

/-! ## Leaving out the calls that fail -/

/-- The calls of a run that succeed when it is their turn. -/
def succeeding (game : Match) : List Call → List Call
  | [] => []
  | c :: rest =>
    match game.call c with
    | .ok next => c :: next.succeeding rest
    | .error _ => game.succeeding rest

/-- Without the calls that fail, every call succeeds, and the run ends in the same match. -/
theorem foldlM_succeeding (game : Match) (calls : List Call) :
    (game.succeeding calls).foldlM call game = .ok (game.run calls) := by
  induction calls generalizing game with
  | nil => rfl
  | cons c rest ih =>
    rw [run_cons, succeeding]
    cases outcome : game.call c with
    | ok next =>
      rw [game.attempt_of_ok next c outcome]
      simp only [List.foldlM_cons, outcome, ok_bind]
      exact ih next
    | error fault =>
      rw [game.attempt_of_error c fault outcome]
      exact ih game

theorem run_of_foldlM (game final : Match) (calls : List Call)
    (succeed : calls.foldlM call game = .ok final) : game.run calls = final := by
  induction calls generalizing game with
  | nil => exact Except.ok.inj succeed
  | cons c rest ih =>
    rw [List.foldlM_cons] at succeed
    obtain ⟨next, outcome, succeed⟩ := bind_eq_ok _ _ _ succeed
    rw [run_cons, game.attempt_of_ok next c outcome]
    exact ih next succeed

/-- A play fails with the first of its texts that is no cell, and otherwise as the application of
a move does, which fails exactly if the match refuses the move. A call that fails changes nothing,
even if it is made in place; a call that succeeds logs the one move that it asks for. Leaving out
the calls that fail does not change where a run ends. -/
theorem failing_calls_leave_no_trace (game : Match) :
    (∀ origin target time fault, game.play origin target time = .error fault ↔
      game.rules.readPosition? origin = none ∧ fault = .invalidFormat origin ∨
        ∃ p, game.rules.readPosition? origin = some p ∧
          (game.rules.readPosition? target = none ∧ fault = .invalidFormat target ∨
            ∃ q, game.rules.readPosition? target = some q ∧
              game.Refuses p q ∧ fault = .illegalMove p q)) ∧
    (∀ move fault, game.apply move = .error fault ↔
      game.Refuses move.origin move.target ∧ fault = .illegalMove move.origin move.target) ∧
    (∀ origin target time p q piece, game.rules.readPosition? origin = some p →
      game.rules.readPosition? target = some q → game.board.at? p = some piece →
        game.play origin target time =
          game.apply { kind := piece.kind, origin := p, target := q, time }) ∧
    (∀ c fault, game.call c = .error fault →
      game.attempt c = game ∧ (Update.call c).run game = (.error fault, game)) ∧
    (∀ c next, game.call c = .ok next →
      game.attempt c = next ∧ (Update.call c).run game = (.ok (), next) ∧
        next.rules = game.rules ∧ next.start = game.start ∧
        ∃ move, game.requested c = .ok move ∧ next.moves = game.moves ++ [move]) ∧
    (∀ calls, game.run (game.succeeding calls) = game.run calls ∧
      (game.succeeding calls).foldlM call game = .ok (game.run calls)) := by
  refine ⟨game.play_eq_error_iff, game.apply_eq_error_iff, game.play_eq_apply, ?_, ?_, ?_⟩
  · intro c fault fails
    refine ⟨game.attempt_of_error c fault fails, ?_⟩
    rw [Update.run_call, fails]
    rfl
  · intro c next succeeds
    obtain ⟨move, piece, asked, _, made⟩ := (game.call_eq_ok_iff next c).mp succeeds
    refine ⟨game.attempt_of_ok next c succeeds, ?_, ?_, ?_, move, asked, ?_⟩
    · rw [Update.run_call, succeeds]
      rfl
    · rw [made]
      rfl
    · rw [made]
      rfl
    · rw [made]
      rfl
  · intro calls
    have remaining := game.foldlM_succeeding calls
    exact ⟨game.run_of_foldlM _ _ remaining, remaining⟩

end GridChess.Match
