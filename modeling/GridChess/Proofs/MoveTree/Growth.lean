import GridChess.Proofs.MoveTree.Step

/-!
# How fast move trees grow

If from each board of a family a number of legal moves lead to boards of the family again, the
count of lines is at least that number to the power of the depth (`pow_le_all_countNodes`).
-/

set_option autoImplicit false

namespace GridChess

/-- Each element that passes is counted for the least count at least. -/
theorem NodeCount.countP_mul_le_all_sum {α : Type} (items : List α) (count : α → NodeCount)
    (passes : α → Bool) (least : Nat)
    (each : ∀ item, passes item = true → least ≤ (count item).all) :
    items.countP passes * least ≤ (sum (items.map count)).all := by
  induction items with
  | nil => rw [List.countP_nil, Nat.zero_mul]; exact Nat.zero_le _
  | cons item items ih =>
    rw [List.countP_cons, List.map_cons, sum_cons]
    change _ ≤ (count item).all + (sum (items.map count)).all
    by_cases here : passes item = true
    · have first := each item here
      rw [if_pos here, Nat.add_mul, Nat.one_mul]
      omega
    · rw [if_neg here, Nat.add_zero]
      omega

namespace RuleSet

variable (rules : RuleSet)

/-- The move can be made, and leads to a board of the family. -/
def staysIn (family : Board → Bool) (board : Board) (move : Move) : Bool :=
  (rules.applyMove board move).toOption.any family

theorem pow_le_all_countNodes (family : Board → Bool) (branching : Nat)
    (grows : ∀ board, family board = true →
      branching ≤ (rules.legalMoves board .zero).countP (rules.staysIn family board))
    (depth : Nat) (board : Board) (inside : family board = true) :
    Nat.pow branching depth ≤ (rules.countNodes depth board).all := by
  -- Up to a depth of one no move is made, so the family matters from the second move on.
  induction depth generalizing board with
  | zero => exact Nat.le_refl _
  | succ depth ih =>
    have enough := grows board inside
    cases depth with
    | zero =>
      have listed := Nat.le_trans enough List.countP_le_length
      rw [rules.countNodes_one board .zero, NodeCount.sum_tally]
      change 1 * branching ≤ _
      rw [Nat.one_mul]
      exact listed
    | succ depth =>
      have counted := NodeCount.countP_mul_le_all_sum (rules.legalMoves board .zero)
        (fun move => ((rules.applyMove board move).toOption.map
          (rules.countNodes (depth + 1))).getD .zero)
        (rules.staysIn family board) (Nat.pow branching (depth + 1)) (by
          intro move stays
          unfold staysIn at stays
          cases moved : (rules.applyMove board move).toOption with
          | none =>
            rw [moved] at stays
            cases stays
          | some next =>
            rw [moved] at stays
            exact ih next stays)
      rw [rules.countNodes_succ_succ, rules.expanded_eq_sum]
      refine Nat.le_trans ?_ counted
      change Nat.pow branching (depth + 1) * branching ≤ _
      rw [Nat.mul_comm]
      exact Nat.mul_le_mul_right _ enough

end RuleSet

end GridChess
