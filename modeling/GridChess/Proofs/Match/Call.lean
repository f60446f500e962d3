import GridChess.Proofs.Match.Apply
import GridChess.Proofs.Outcome

/-!
# Calls

What one call does to a match. A call asks for a move, which the match either accepts for the
piece on its origin, and then makes and logs it, or refuses. A call that gives cells by texts can
also fail because it asks for no move at all.
-/

set_option autoImplicit false

namespace GridChess.Match

/-- The match lets the piece make the move. -/
structure Accepts (game : Match) (move : Move) (piece : Piece) : Prop where
  found : game.board.at? move.origin = some piece
  own : piece.colour = game.board.turn
  allowed : game.rules.canMove game.board piece move.target = true

/-- Nobody may go from the origin to the target: there is no piece, or it is not its turn, or the
rules do not let it. -/
def Refuses (game : Match) (origin target : Position) : Prop :=
  game.board.at? origin = none ∨
    ∃ piece, game.board.at? origin = some piece ∧
      (piece.colour ≠ game.board.turn ∨ game.rules.canMove game.board piece target = false)

/-- The match after a move is made and logged. -/
def after (game : Match) (move : Move) : Match :=
  { game with
    board := game.rules.boardAfter game.board move
    moves := game.moves ++ [move] }

/-! ## Applying a move -/

theorem accepts_or_refuses (game : Match) (move : Move) :
    (∃ piece, game.Accepts move piece) ∨ game.Refuses move.origin move.target := by
  cases found : game.board.at? move.origin with
  | none => exact Or.inr (Or.inl found)
  | some piece =>
    by_cases own : piece.colour = game.board.turn
    · cases allowed : game.rules.canMove game.board piece move.target with
      | true => exact Or.inl ⟨piece, found, own, allowed⟩
      | false => exact Or.inr (Or.inr ⟨piece, found, Or.inr allowed⟩)
    · exact Or.inr (Or.inr ⟨piece, found, Or.inl own⟩)

theorem Accepts.not_refuses (game : Match) (move : Move) (piece : Piece)
    (accepts : game.Accepts move piece) : ¬game.Refuses move.origin move.target := by
  rintro (none | ⟨other, found, reason⟩)
  · rw [accepts.found] at none
    cases none
  · rw [accepts.found] at found
    cases found
    rcases reason with foreign | forbidden
    · exact foreign accepts.own
    · rw [accepts.allowed] at forbidden
      cases forbidden

theorem apply_of_accepts (game : Match) (move : Move) (piece : Piece)
    (accepts : game.Accepts move piece) : game.apply move = .ok (game.after move) :=
  (game.apply_eq_ok_iff _ move).mpr
    ⟨piece, accepts.found, accepts.own, accepts.allowed, rfl⟩

theorem apply_of_refuses (game : Match) (move : Move)
    (refuses : game.Refuses move.origin move.target) :
    game.apply move = .error (.illegalMove move.origin move.target) := by
  unfold apply
  rcases refuses with none | ⟨piece, found, reason⟩
  · rw [none]
  · simp only [found]
    by_cases own : piece.colour = game.board.turn
    · have forbidden : game.rules.canMove game.board piece move.target = false :=
        reason.resolve_left (not_not_intro own)
      have refused : game.rules.applyMove game.board move =
          .error (.illegalMove move.origin move.target) := by
        simp [RuleSet.applyMove, found, forbidden]
      rw [if_pos own, refused]
      rfl
    · rw [if_neg own]

theorem apply_eq_error_iff (game : Match) (move : Move) (fault : Error) :
    game.apply move = .error fault ↔
      game.Refuses move.origin move.target ∧ fault = .illegalMove move.origin move.target := by
  rcases game.accepts_or_refuses move with ⟨piece, accepts⟩ | refuses
  · simp [game.apply_of_accepts move piece accepts, accepts.not_refuses]
  · simp [game.apply_of_refuses move refuses, refuses, eq_comm]

/-! ## Calls of both forms -/

/-- The move that a call asks for. -/
def requested (game : Match) : Call → Except Error Move
  | .apply move => .ok move
  | .play origin target time => do
    let origin ← game.rules.readPosition origin
    let target ← game.rules.readPosition target
    match game.board.at? origin with
    | none => throw (.illegalMove origin target)
    | some piece => return { kind := piece.kind, origin, target, time }

theorem play_eq_error_iff (game : Match) (origin target : String) (time : Duration)
    (fault : Error) :
    game.play origin target time = .error fault ↔
      game.rules.readPosition? origin = none ∧ fault = .invalidFormat origin ∨
        ∃ p, game.rules.readPosition? origin = some p ∧
          (game.rules.readPosition? target = none ∧ fault = .invalidFormat target ∨
            ∃ q, game.rules.readPosition? target = some q ∧
              game.Refuses p q ∧ fault = .illegalMove p q) := by
  unfold play
  simp only [bind_eq_error_iff, RuleSet.readPosition_eq_ok_iff, RuleSet.readPosition_eq_error_iff]
  refine or_congr_right (exists_congr fun p => and_congr_right fun _ =>
    or_congr_right (exists_congr fun q => and_congr_right fun _ => ?_))
  cases found : game.board.at? p with
  | none =>
    have refuses : game.Refuses p q := Or.inl found
    simp [refuses, throw, throwThe, MonadExceptOf.throw, eq_comm]
  | some piece => exact game.apply_eq_error_iff _ fault

/-- A play from an occupied cell is the application of a move of the kind that stands there. -/
theorem play_eq_apply (game : Match) (origin target : String) (time : Duration) (p q : Position)
    (piece : Piece) (first : game.rules.readPosition? origin = some p)
    (second : game.rules.readPosition? target = some q)
    (found : game.board.at? p = some piece) :
    game.play origin target time =
      game.apply { kind := piece.kind, origin := p, target := q, time } := by
  unfold play RuleSet.readPosition
  simp only [first, second, ok_bind, found]

/-- A call does what applying the move that it asks for does. -/
theorem call_eq (game : Match) (c : Call) : game.call c = game.requested c >>= game.apply := by
  cases c with
  | apply move => rfl
  | play origin target time =>
    simp only [call, play, requested, bind_assoc]
    congr 1
    funext p
    congr 1
    funext q
    cases game.board.at? p with
    | none => rfl
    | some piece => rfl

/-- All that a successful call does: it makes and logs the move that it asks for. -/
theorem call_eq_ok_iff (game next : Match) (c : Call) :
    game.call c = .ok next ↔
      ∃ move piece, game.requested c = .ok move ∧ game.Accepts move piece ∧
        next = game.after move := by
  rw [call_eq]
  constructor
  · intro succeeds
    obtain ⟨move, asked, applied⟩ := bind_eq_ok _ _ _ succeeds
    rcases game.accepts_or_refuses move with ⟨piece, accepts⟩ | refuses
    · rw [game.apply_of_accepts move piece accepts] at applied
      exact ⟨move, piece, asked, accepts, (Except.ok.inj applied).symm⟩
    · rw [game.apply_of_refuses move refuses] at applied
      cases applied
  · rintro ⟨move, piece, asked, accepts, rfl⟩
    rw [asked, ok_bind, game.apply_of_accepts move piece accepts]

end GridChess.Match
