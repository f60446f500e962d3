import GridChess.MoveTree
import GridChess.Proofs.Outcome

/-!
# Decisions that may give nothing

All that rules do with their decision, once more for a decision that may give nothing, and then
nothing follows from it. If the decision always gives the answer of the rules (`Decides`), so does
everything else. Lines of moves are counted up to a limit here, and a count gives nothing if and
only if the exact one is past the limit (`countNodes?_eq_keep?`).
-/

set_option autoImplicit false

namespace GridChess

/-- Keeps what passes a test that may give nothing. -/
def filter? {α : Type} (test? : α → Option Bool) : List α → Option (List α)
  | [] => some []
  | item :: rest => do
    let passes ← test? item
    let kept ← filter? test? rest
    return if passes then item :: kept else kept

theorem filter?_eq_some {α : Type} (test? : α → Option Bool) (test : α → Bool) (items : List α)
    (agrees : ∀ item, test? item = some (test item)) :
    filter? test? items = some (items.filter test) := by
  induction items with
  | nil => rfl
  | cons item rest ih =>
    rw [filter?, agrees, ih, List.filter_cons]
    rfl

namespace NodeCount

def Fits (most : Nat) (count : NodeCount) : Prop := count.all ≤ most ∧ count.captures ≤ most

instance (most : Nat) (count : NodeCount) : Decidable (count.Fits most) :=
  inferInstanceAs (Decidable (_ ∧ _))

/-- A count, if it is not past the limit. -/
def keep? (most : Nat) (count : NodeCount) : Option NodeCount :=
  if count.Fits most then some count else none

def add? (most : Nat) (a b : NodeCount) : Option NodeCount := (a.add b).keep? most

variable (most : Nat)

theorem Fits.left (a b : NodeCount) (fits : (a.add b).Fits most) : a.Fits most :=
  ⟨Nat.le_trans (Nat.le_add_right _ _) fits.1, Nat.le_trans (Nat.le_add_right _ _) fits.2⟩

theorem Fits.right (a b : NodeCount) (fits : (a.add b).Fits most) : b.Fits most :=
  ⟨Nat.le_trans (Nat.le_add_left _ _) fits.1, Nat.le_trans (Nat.le_add_left _ _) fits.2⟩

/-- Counts only grow, so all that was counted before is below the limit too. -/
theorem Fits.start (counts : List NodeCount) (total : NodeCount)
    (fits : (counts.foldl add total).Fits most) : total.Fits most := by
  induction counts generalizing total with
  | nil => exact fits
  | cons count counts ih => exact Fits.left most total count (ih _ fits)

/-- It is enough to look at the sum. -/
theorem keep?_bind_add? (total count : NodeCount) :
    (count.keep? most >>= total.add? most) = (total.add count).keep? most := by
  unfold keep?
  by_cases fits : count.Fits most
  · rw [if_pos fits]
    rfl
  · rw [if_neg fits, if_neg fun both => fits (Fits.right most total count both)]
    rfl

theorem foldlM_keep? {α : Type} (step : NodeCount → α → Option NodeCount) (value : α → NodeCount)
    (items : List α) (total : NodeCount) (start : total.Fits most)
    (each : ∀ total, total.Fits most → ∀ item, step total item = total.add? most (value item)) :
    items.foldlM step total = ((items.map value).foldl add total).keep? most := by
  induction items generalizing total with
  | nil => exact (if_pos start).symm
  | cons item rest ih =>
    rw [List.foldlM_cons, each total start, List.map_cons, List.foldl_cons]
    unfold add? keep?
    by_cases fits : (total.add (value item)).Fits most
    · rw [if_pos fits]
      exact ih _ fits
    · rw [if_neg fits, if_neg fun all => fits (Fits.start most _ _ all)]
      rfl

end NodeCount

namespace RuleSet

variable (rules : RuleSet) (decide? : Board → Piece → Position → Option Bool)

/-- The decision always gives an answer, which is that of the rules. -/
def Decides : Prop :=
  ∀ board piece target, decide? board piece target = some (rules.canMove board piece target)

def reachable? (board : Board) (piece : Piece) : Option (List Position) :=
  filter? (decide? board piece) rules.cells

def legalMoves? (board : Board) (time : Duration) : Option (List Move) := do
  let moves ← (board.pieces.filter (·.colour = board.turn)).mapM fun piece => do
    let targets ← rules.reachable? decide? board piece
    return targets.map fun target =>
      { kind := piece.kind, origin := piece.position, target, time : Move }
  return moves.flatten

def applyMove? (board : Board) (move : Move) : Option (Except Error Board) :=
  match board.at? move.origin with
  | none => some (.error (.illegalMove move.origin move.target))
  | some piece => do
    if ← decide? board piece move.target then
      return .ok (board.relocate move.origin move.target (nextPlayer rules.colours board.turn))
    else return .error (.illegalMove move.origin move.target)

/-- Counts lines of moves as long as no count is past the limit. -/
def countNodes? (most : Nat) : Nat → Board → Option NodeCount
  | 0, _ => NodeCount.keep? most ⟨1, 0⟩
  | 1, board => do
    let moves ← rules.legalMoves? decide? board .zero
    moves.foldlM (fun total move =>
      total.add? most ⟨1, if board.isOccupied move.target then 1 else 0⟩) .zero
  | depth + 2, board => do
    let moves ← rules.legalMoves? decide? board .zero
    moves.foldlM (fun total move => do
      match ← rules.applyMove? decide? board move with
      | .ok next => countNodes? most (depth + 1) next >>= total.add? most
      | .error _ => return total) .zero

variable (decides : rules.Decides decide?)

include decides

theorem reachable?_eq_some (board : Board) (piece : Piece) :
    rules.reachable? decide? board piece = some (rules.reachable board piece) :=
  filter?_eq_some _ _ _ (decides board piece)

theorem legalMoves?_eq_some (board : Board) (time : Duration) :
    rules.legalMoves? decide? board time = some (rules.legalMoves board time) := by
  unfold legalMoves? legalMoves
  rw [mapM_eq_pure _ (fun piece => (rules.reachable board piece).map fun target =>
    { kind := piece.kind, origin := piece.position, target, time : Move })]
  · rw [List.flatMap_def]
    rfl
  · intro piece _
    rw [rules.reachable?_eq_some decide? decides]
    rfl

theorem applyMove?_eq_some (board : Board) (move : Move) :
    rules.applyMove? decide? board move = some (rules.applyMove board move) := by
  unfold applyMove? applyMove
  cases board.at? move.origin with
  | none => rfl
  | some piece =>
    dsimp only
    rw [decides]
    cases rules.canMove board piece move.target with
    | false => rfl
    | true => rfl

/-- The limit is reached on the way only if the exact counts are past it. -/
theorem countNodes?_eq_keep? (most depth : Nat) (board : Board) :
    rules.countNodes? decide? most depth board = (rules.countNodes depth board).keep? most := by
  have start : NodeCount.zero.Fits most := ⟨Nat.zero_le _, Nat.zero_le _⟩
  -- The last move of a line is not applied, so only the second case looks at the next boards.
  induction depth generalizing board with
  | zero => rfl
  | succ depth ih =>
    cases depth with
    | zero =>
      rw [countNodes?, rules.legalMoves?_eq_some decide? decides]
      exact NodeCount.foldlM_keep? most _ _ _ _ start fun _ _ _ => rfl
    | succ depth =>
      rw [countNodes?, rules.legalMoves?_eq_some decide? decides]
      refine NodeCount.foldlM_keep? most _ _ _ _ start fun total fits move => ?_
      rw [rules.applyMove?_eq_some decide? decides]
      cases rules.applyMove board move with
      | ok next =>
        change rules.countNodes? decide? most (depth + 1) next >>= total.add? most = _
        rw [ih, NodeCount.keep?_bind_add?]
        rfl
      | error fault => exact (if_pos fits).symm

end RuleSet

end GridChess
