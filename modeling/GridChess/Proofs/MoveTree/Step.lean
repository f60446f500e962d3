import GridChess.MoveTree
import GridChess.Proofs.Board.Relocate
import GridChess.Proofs.RuleSet.LegalMoves

/-!
# Counting by one move

Counts add up in any order. A legal move can always be made on a board whose pieces stand apart,
so the count of a greater depth is the sum of the counts after each legal move, and no move is
lost (`countNodes_step`).
-/

set_option autoImplicit false

namespace GridChess

/-! ## Sums of counts -/

namespace NodeCount

theorem add_assoc (a b c : NodeCount) : (a.add b).add c = a.add (b.add c) := by
  simp [add, Nat.add_assoc]

theorem add_comm (a b : NodeCount) : a.add b = b.add a := by
  simp [add, Nat.add_comm]

theorem add_zero (a : NodeCount) : a.add zero = a := rfl

theorem zero_add (a : NodeCount) : zero.add a = a := by
  rw [add_comm, add_zero]

instance : Std.Associative add := ⟨add_assoc⟩

@[simp]
theorem sum_nil : sum [] = zero := rfl

@[simp]
theorem sum_cons (count : NodeCount) (counts : List NodeCount) :
    sum (count :: counts) = count.add (sum counts) := by
  unfold sum
  rw [List.foldl_cons, add_comm]
  exact List.foldl_assoc

theorem sum_append (first second : List NodeCount) :
    sum (first ++ second) = (sum first).add (sum second) := by
  induction first with
  | nil => rw [List.nil_append, sum_nil, zero_add]
  | cons count counts ih => rw [List.cons_append, sum_cons, sum_cons, ih, add_assoc]

theorem sum_flatMap {α : Type} (list : List α) (counts : α → List NodeCount) :
    sum (list.flatMap counts) = sum (list.map fun a => sum (counts a)) := by
  induction list with
  | nil => rfl
  | cons a list ih => rw [List.flatMap_cons, sum_append, ih, List.map_cons, sum_cons]

theorem sum_perm (first second : List NodeCount) (perm : first.Perm second) :
    sum first = sum second := by
  refine perm.foldl_eq' ?_ zero
  intro a _ b _ total
  rw [add_assoc, add_assoc, add_comm a b]

/-- Counting one for each element, and one more for those that pass. -/
theorem sum_tally {α : Type} (list : List α) (passes : α → Bool) :
    sum (list.map fun a => ⟨1, if passes a then 1 else 0⟩) =
      ⟨list.length, list.countP passes⟩ := by
  induction list with
  | nil => rfl
  | cons a list ih =>
    rw [List.map_cons, sum_cons, ih, List.length_cons, List.countP_cons]
    simp [add, Nat.add_comm]

end NodeCount

namespace RuleSet

/-! ## Legal moves are made -/

theorem apart_boardAfter (rules : RuleSet) (board : Board) (apart : board.Apart) (move : Move) :
    (rules.boardAfter board move).Apart :=
  board.apart_relocate apart move.origin move.target _

/-- No legal move is refused when it is applied. -/
theorem applyMove_of_legal (rules : RuleSet) (bounded : rules.Bounded) (board : Board)
    (apart : board.Apart) (time : Duration) (move : Move)
    (legal : move ∈ rules.legalMoves board time) :
    rules.applyMove board move = .ok (rules.boardAfter board move) := by
  obtain ⟨_, piece, found, _, _, allowed⟩ :=
    (rules.mem_legalMoves_iff bounded board apart time move).mp legal
  exact (rules.applyMove_eq_ok_iff board _ move).mpr ⟨piece, found, allowed, rfl⟩

/-- The time is all in which the lists for two times differ. -/
theorem map_legalMoves {α : Type} (rules : RuleSet) (board : Board) (f : Move → α)
    (timeless : ∀ move time, f { move with time } = f move) (time time' : Duration) :
    (rules.legalMoves board time).map f = (rules.legalMoves board time').map f := by
  unfold legalMoves
  rw [List.map_flatMap, List.map_flatMap]
  congr 1
  funext piece
  rw [List.map_map, List.map_map]
  apply List.map_congr_left
  intro target _
  exact timeless ⟨piece.kind, piece.position, target, time'⟩ time

/-! ## Counts -/

theorem countNodes_one (rules : RuleSet) (board : Board) (time : Duration) :
    rules.countNodes 1 board =
      .sum ((rules.legalMoves board time).map fun move =>
        ⟨1, if board.isOccupied move.target then 1 else 0⟩) :=
  congrArg NodeCount.sum (rules.map_legalMoves board _ (fun _ _ => rfl) .zero time)

/-- The counts after each listed move that can be made. A move that is refused adds nothing. -/
def expanded (rules : RuleSet) (depth : Nat) (board : Board) : NodeCount :=
  .sum <| (rules.legalMoves board .zero).map fun move =>
    match rules.applyMove board move with
    | .ok next => rules.countNodes depth next
    | .error _ => .zero

theorem countNodes_succ_succ (rules : RuleSet) (depth : Nat) (board : Board) :
    rules.countNodes (depth + 2) board = rules.expanded (depth + 1) board := rfl

theorem expanded_eq_sum (rules : RuleSet) (depth : Nat) (board : Board) :
    rules.expanded depth board =
      .sum ((rules.legalMoves board .zero).map fun move =>
        ((rules.applyMove board move).toOption.map (rules.countNodes depth)).getD .zero) := by
  unfold expanded
  congr 1
  apply List.map_congr_left
  intro move _
  cases rules.applyMove board move with
  | ok next => rfl
  | error fault => rfl

theorem expanded_eq (rules : RuleSet) (bounded : rules.Bounded) (board : Board)
    (apart : board.Apart) (depth : Nat) (time : Duration) :
    rules.expanded depth board =
      .sum ((rules.legalMoves board time).map fun move =>
        rules.countNodes depth (rules.boardAfter board move)) := by
  rw [rules.map_legalMoves board _ (fun _ _ => rfl) time .zero]
  unfold expanded
  congr 1
  apply List.map_congr_left
  intro move legal
  rw [rules.applyMove_of_legal bounded board apart .zero move legal]

/-- What is counted to a depth of one without making the moves is what would be found by making
them. -/
theorem all_countNodes_succ (rules : RuleSet) (bounded : rules.Bounded) (board : Board)
    (apart : board.Apart) (depth : Nat) :
    (rules.countNodes (depth + 1) board).all = (rules.expanded depth board).all := by
  cases depth with
  | zero =>
    have moved := NodeCount.sum_tally (rules.legalMoves board .zero) fun _ => false
    rw [rules.countNodes_one board .zero, NodeCount.sum_tally,
      rules.expanded_eq bounded board apart 0 .zero]
    exact (congrArg NodeCount.all moved).symm
  | succ depth => rfl

theorem countNodes_step (rules : RuleSet) (bounded : rules.Bounded) (board : Board)
    (apart : board.Apart) (depth : Nat) (positive : 0 < depth) (time : Duration) :
    rules.countNodes (depth + 1) board =
      .sum ((rules.legalMoves board time).map fun move =>
        rules.countNodes depth (rules.boardAfter board move)) := by
  obtain ⟨before, rfl⟩ := Nat.exists_eq_succ_of_ne_zero (Nat.ne_of_gt positive)
  rw [rules.countNodes_succ_succ]
  exact rules.expanded_eq bounded board apart (before + 1) time

end RuleSet

end GridChess
