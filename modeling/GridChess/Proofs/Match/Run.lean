import GridChess.Proofs.Match.Call

/-!
# Runs

A run makes calls one after the other, and calls that fail are passed over, so what holds of a run
is shown along its accepted moves (`plies_induction`). What every accepted move preserves holds
after the whole run (`run_induction`). A run logs exactly the moves that it accepts (`moves_run`),
and comes to applying these in order (`applyAll_run`).
-/

set_option autoImplicit false

namespace GridChess.Match

theorem attempt_of_ok (game next : Match) (c : Call) (succeeds : game.call c = .ok next) :
    game.attempt c = next := by
  unfold attempt
  rw [succeeds]

theorem attempt_of_error (game : Match) (c : Call) (fault : Error)
    (fails : game.call c = .error fault) : game.attempt c = game := by
  unfold attempt
  rw [fails]

theorem run_cons (game : Match) (c : Call) (rest : List Call) :
    game.run (c :: rest) = (game.attempt c).run rest := rfl

theorem run_append (game : Match) (first second : List Call) :
    game.run (first ++ second) = (game.run first).run second :=
  List.foldl_append

/-- A call fails, or makes the move that it asks for. -/
theorem call_cases (game : Match) (c : Call) :
    (∃ fault, game.call c = .error fault) ∨
      ∃ move piece, game.Accepts move piece ∧ game.call c = .ok (game.after move) := by
  cases outcome : game.call c with
  | error fault => exact Or.inl ⟨fault, rfl⟩
  | ok next =>
    obtain ⟨move, piece, _, accepts, rfl⟩ := (game.call_eq_ok_iff next c).mp outcome
    exact Or.inr ⟨move, piece, accepts, rfl⟩

/-! ## Applying moves in order -/

theorem applyAll_cons (game : Match) (move : Move) (rest : List Move) :
    game.applyAll (move :: rest) = game.apply move >>= fun next => next.applyAll rest :=
  List.foldlM_cons

theorem applyAll_cons_of_accepts (game : Match) (move : Move) (piece : Piece)
    (accepts : game.Accepts move piece) (rest : List Move) :
    game.applyAll (move :: rest) = (game.after move).applyAll rest := by
  rw [applyAll_cons, game.apply_of_accepts move piece accepts, ok_bind]

/-- The first of the moves that can be applied in order is accepted. -/
theorem applyAll_cons_eq_ok (game final : Match) (move : Move) (rest : List Move)
    (applied : game.applyAll (move :: rest) = .ok final) :
    ∃ piece, game.Accepts move piece ∧ (game.after move).applyAll rest = .ok final := by
  rcases game.accepts_or_refuses move with ⟨piece, accepts⟩ | refuses
  · rw [game.applyAll_cons_of_accepts move piece accepts] at applied
    exact ⟨piece, accepts, applied⟩
  · rw [applyAll_cons, game.apply_of_refuses move refuses] at applied
    cases applied

/-! ## The accepted moves -/

/-- A move that was accepted, and the board that it was made on. -/
structure Ply where
  board : Board
  move : Move
  deriving DecidableEq, Repr

/-- The accepted moves of a run, oldest first: every successful call logs one. -/
def plies (game : Match) : List Call → List Ply
  | [] => []
  | c :: rest =>
    match game.call c with
    | .ok next => next.lastMove?.toList.map (Ply.mk game.board) ++ next.plies rest
    | .error _ => game.plies rest

theorem plies_cons_of_error (game : Match) (c : Call) (fault : Error)
    (fails : game.call c = .error fault) (rest : List Call) :
    game.plies (c :: rest) = game.plies rest := by
  rw [plies, fails]

theorem plies_cons_of_ok (game : Match) (c : Call) (move : Move)
    (made : game.call c = .ok (game.after move)) (rest : List Call) :
    game.plies (c :: rest) = ⟨game.board, move⟩ :: (game.after move).plies rest := by
  have last : (game.after move).lastMove? = some move := List.getLast?_concat
  rw [plies, made]
  simp only [last]
  rfl

/-- A relation between a match, the accepted moves of a run and the match after it holds of every
run if it holds of the empty one, and whenever an accepted move comes first. -/
theorem plies_induction (P : Match → List Ply → Match → Prop)
    (start : ∀ game, P game [] game)
    (step : ∀ game move piece plies final, game.Accepts move piece →
      P (game.after move) plies final → P game (⟨game.board, move⟩ :: plies) final)
    (game : Match) (calls : List Call) : P game (game.plies calls) (game.run calls) := by
  induction calls generalizing game with
  | nil => exact start game
  | cons c rest ih =>
    rw [run_cons]
    rcases game.call_cases c with ⟨fault, fails⟩ | ⟨move, piece, accepts, made⟩
    · rw [game.attempt_of_error c fault fails, game.plies_cons_of_error c fault fails]
      exact ih game
    · rw [game.attempt_of_ok _ c made, game.plies_cons_of_ok c move made]
      exact step game move piece _ _ accepts (ih (game.after move))

/-- What every accepted move preserves holds after a run. -/
theorem run_induction (P : Match → Prop)
    (step : ∀ game move piece, P game → game.Accepts move piece → P (game.after move))
    (game : Match) (start : P game) (calls : List Call) : P (game.run calls) :=
  plies_induction (fun before _ after => P before → P after) (fun _ holds => holds)
    (fun before move piece _ _ accepts later holds =>
      later (step before move piece holds accepts))
    game calls start

theorem moves_run (game : Match) (calls : List Call) :
    (game.run calls).moves = game.moves ++ (game.plies calls).map Ply.move := by
  refine plies_induction
    (fun before plies after => after.moves = before.moves ++ plies.map Ply.move) ?_ ?_ game calls
  · intro game
    exact (List.append_nil _).symm
  · intro game move piece plies final _ later
    rw [later]
    exact List.append_assoc _ _ _

/-- A run does what applying its accepted moves does. -/
theorem applyAll_run (game : Match) (calls : List Call) :
    game.applyAll ((game.plies calls).map Ply.move) = .ok (game.run calls) := by
  refine plies_induction
    (fun before plies after => before.applyAll (plies.map Ply.move) = .ok after) ?_ ?_ game calls
  · intro game
    rfl
  · intro game move piece plies final accepts later
    rw [List.map_cons, game.applyAll_cons_of_accepts move piece accepts]
    exact later

/-- An opening on the flat board in which a pawn is taken. The first move names a wrong kind, and
the second and the fourth call fail. -/
def gambit : List Call :=
  [.apply ⟨.king, .flat 4 1, .flat 4 3, .zero⟩, .play "e4" "e5" .zero, .play "d7" "d5" .zero,
    .play "d5" "d9" .zero, .apply ⟨.pawn, .flat 4 3, .flat 3 4, .zero⟩]

end GridChess.Match
