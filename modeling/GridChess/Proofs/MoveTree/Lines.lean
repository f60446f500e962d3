import GridChess.Proofs.MoveTree.Step
import GridChess.Proofs.Outcome
import GridChess.RuleSet.Flat

/-!
# Lines of play

A line is a sequence of moves each of which is legal on the board that those before it lead to.
The lines of a given length can be listed, and counting nodes counts them and those that end in
a capture. Counting to a sum of two depths adds up the counts to the second one over all lines of
the first (`countNodes_counts_lines`).
-/

set_option autoImplicit false

namespace GridChess.RuleSet

/-- Every move of a line is legal on the board that the moves before it lead to. -/
def IsLine (rules : RuleSet) (time : Duration) (board : Board) (moves : List Move) :
    Prop :=
  ∀ i move, moves[i]? = some move →
    ∃ before, (moves.take i).foldlM rules.applyMove board = .ok before ∧
      move ∈ rules.legalMoves before time

/-- The lines of `depth` moves. -/
def lines (rules : RuleSet) (time : Duration) : Nat → Board → List (List Move)
  | 0, _ => [[]]
  | depth + 1, board =>
    (rules.legalMoves board time).flatMap fun move =>
      (rules.lines time depth (rules.boardAfter board move)).map (move :: ·)

/-- Whether the target of the last move is occupied on the board just before it. -/
def endsInCapture (rules : RuleSet) (board : Board) (line : List Move) : Bool :=
  match line.getLast?, line.dropLast.foldlM rules.applyMove board with
  | some last, .ok before => before.isOccupied last.target
  | _, _ => false

variable (rules : RuleSet) (bounded : rules.Bounded) (time : Duration)

/-! ## Following a line -/

theorem isLine_nil (board : Board) : rules.IsLine time board [] := by
  intro i move listed
  cases listed

include bounded in
theorem isLine_cons_iff (board : Board) (apart : board.Apart) (move : Move) (rest : List Move) :
    rules.IsLine time board (move :: rest) ↔
      move ∈ rules.legalMoves board time ∧ rules.IsLine time (rules.boardAfter board move) rest := by
  constructor
  · intro follows
    obtain ⟨before, reached, legal⟩ := follows 0 move rfl
    cases reached
    refine ⟨legal, ?_⟩
    intro i later listed
    obtain ⟨before, reached, legal'⟩ := follows (i + 1) later listed
    rw [List.take_succ_cons, List.foldlM_cons,
      rules.applyMove_of_legal bounded board apart time move legal, ok_bind] at reached
    exact ⟨before, reached, legal'⟩
  · rintro ⟨legal, follows⟩ i later listed
    cases i with
    | zero =>
      cases listed
      exact ⟨board, rfl, legal⟩
    | succ i =>
      obtain ⟨before, reached, legal'⟩ := follows i later listed
      refine ⟨before, ?_, legal'⟩
      rw [List.take_succ_cons, List.foldlM_cons,
        rules.applyMove_of_legal bounded board apart time move legal, ok_bind]
      exact reached

include bounded in
/-- A line can be played to its end. -/
theorem foldlM_of_isLine (board : Board) (apart : board.Apart) (line : List Move)
    (follows : rules.IsLine time board line) :
    line.foldlM rules.applyMove board = .ok (line.foldl rules.boardAfter board) := by
  induction line generalizing board with
  | nil => rfl
  | cons move rest ih =>
    obtain ⟨legal, later⟩ := (rules.isLine_cons_iff bounded time board apart move rest).mp follows
    rw [List.foldlM_cons, rules.applyMove_of_legal bounded board apart time move legal, ok_bind,
      List.foldl_cons]
    exact ih _ (rules.apart_boardAfter board apart move) later

/-! ## Listing the lines -/

include bounded in
theorem mem_lines_iff (depth : Nat) (board : Board) (apart : board.Apart) (line : List Move) :
    line ∈ rules.lines time depth board ↔ line.length = depth ∧ rules.IsLine time board line := by
  induction depth generalizing board line with
  | zero =>
    rw [lines, List.mem_singleton, List.length_eq_zero_iff]
    constructor
    · rintro rfl
      exact ⟨rfl, rules.isLine_nil time board⟩
    · exact And.left
  | succ depth ih =>
    simp only [lines, List.mem_flatMap, List.mem_map]
    constructor
    · rintro ⟨move, legal, rest, listed, rfl⟩
      obtain ⟨length, follows⟩ := (ih _ (rules.apart_boardAfter board apart move) rest).mp listed
      exact ⟨congrArg Nat.succ length,
        (rules.isLine_cons_iff bounded time board apart move rest).mpr ⟨legal, follows⟩⟩
    · rintro ⟨length, follows⟩
      cases line with
      | nil => cases length
      | cons move rest =>
        obtain ⟨legal, later⟩ :=
          (rules.isLine_cons_iff bounded time board apart move rest).mp follows
        exact ⟨move, legal, rest, (ih _ (rules.apart_boardAfter board apart move) rest).mpr
          ⟨Nat.succ.inj length, later⟩, rfl⟩

include bounded in
/-- Lines that begin with different moves differ, so none is listed twice. -/
theorem nodup_lines (depth : Nat) (board : Board) (apart : board.Apart) :
    (rules.lines time depth board).Nodup := by
  induction depth generalizing board with
  | zero => exact List.pairwise_singleton _ _
  | succ depth ih =>
    refine nodup_join _ _ (rules.nodup_legalMoves bounded board apart time) ?_ ?_
    · intro move _
      refine nodup_map _ _ (ih _ (rules.apart_boardAfter board apart move)) ?_
      intro line line' same
      exact List.tail_eq_of_cons_eq same
    · intro move move' line first second
      obtain ⟨rest, _, rfl⟩ := List.mem_map.mp first
      obtain ⟨rest', _, same⟩ := List.mem_map.mp second
      exact (List.head_eq_of_cons_eq same).symm

/-! ## Counting the lines -/

theorem endsInCapture_singleton (board : Board) (move : Move) :
    rules.endsInCapture board [move] = board.isOccupied move.target := rfl

theorem endsInCapture_cons (board next : Board) (move : Move) (rest : List Move)
    (applied : rules.applyMove board move = .ok next) (more : rest ≠ []) :
    rules.endsInCapture board (move :: rest) = rules.endsInCapture next rest := by
  obtain ⟨second, rest, rfl⟩ := List.exists_cons_of_ne_nil more
  unfold endsInCapture
  rw [List.getLast?_cons_cons, List.dropLast_cons_cons, List.foldlM_cons, applied, ok_bind]

include bounded in
theorem countNodes_eq (depth : Nat) (board : Board) (apart : board.Apart) :
    rules.countNodes depth board =
      ⟨(rules.lines time depth board).length,
        (rules.lines time depth board).countP (rules.endsInCapture board)⟩ := by
  rw [← NodeCount.sum_tally]
  induction depth generalizing board with
  | zero => rfl
  | succ depth ih =>
    rw [lines, List.map_flatMap, NodeCount.sum_flatMap]
    cases depth with
    | zero =>
      rw [rules.countNodes_one board time]
      congr 1
      apply List.map_congr_left
      intro move _
      rw [lines, List.map_singleton, List.map_singleton, NodeCount.sum_cons, NodeCount.sum_nil,
        NodeCount.add_zero, rules.endsInCapture_singleton]
    | succ depth =>
      rw [rules.countNodes_step bounded board apart (depth + 1) (Nat.succ_pos depth) time]
      congr 1
      apply List.map_congr_left
      intro move legal
      rw [ih _ (rules.apart_boardAfter board apart move), List.map_map]
      congr 1
      apply List.map_congr_left
      intro rest listed
      have long := (rules.mem_lines_iff bounded time (depth + 1) _
        (rules.apart_boardAfter board apart move) rest).mp listed
      have more : rest ≠ [] := List.ne_nil_of_length_eq_add_one long.1
      have applied := rules.applyMove_of_legal bounded board apart time move legal
      simp only [Function.comp_apply, rules.endsInCapture_cons board _ move rest applied more]

include bounded in
/-- All lines of the first depth are gone through, and from their ends all of the second. -/
theorem countNodes_add (first second : Nat) (positive : 0 < second) (board : Board)
    (apart : board.Apart) :
    rules.countNodes (first + second) board =
      .sum ((rules.lines time first board).map fun line =>
        rules.countNodes second (line.foldl rules.boardAfter board)) := by
  induction first generalizing board with
  | zero =>
    rw [lines, Nat.zero_add, List.map_singleton, NodeCount.sum_cons, NodeCount.sum_nil,
      NodeCount.add_zero]
    rfl
  | succ first ih =>
    rw [Nat.add_right_comm,
      rules.countNodes_step bounded board apart (first + second) (by omega) time, lines,
      List.map_flatMap, NodeCount.sum_flatMap]
    congr 1
    apply List.map_congr_left
    intro move _
    rw [ih _ (rules.apart_boardAfter board apart move), List.map_map]
    rfl

/-- Counting nodes on the flat board counts the lines of play, under any players: `countNodes`
gives the number of lines and of those that end in a capture. Each line can be played to its end,
so no branch is lost and what is counted to a depth of one is what would be found on the boards
one move later. To a sum of depths, the counts from the ends of all lines of the first depth add
up. -/
theorem countNodes_counts_lines (colours : List Colour) (board : Board) (apart : board.Apart)
    (time : Duration) :
    (∀ depth, ((flat.withColours colours).lines time depth board).Nodup ∧
      (∀ line, line ∈ (flat.withColours colours).lines time depth board ↔
        line.length = depth ∧ (flat.withColours colours).IsLine time board line) ∧
      (flat.withColours colours).countNodes depth board =
        ⟨((flat.withColours colours).lines time depth board).length,
          ((flat.withColours colours).lines time depth board).countP
            ((flat.withColours colours).endsInCapture board)⟩) ∧
    (∀ line, (flat.withColours colours).IsLine time board line →
      ∃ last, line.foldlM (flat.withColours colours).applyMove board = .ok last) ∧
    (∀ depth, ((flat.withColours colours).countNodes (depth + 1) board).all =
      ((flat.withColours colours).expanded depth board).all) ∧
    (∀ first second, 0 < second → ∃ boards,
      ((flat.withColours colours).lines time first board).mapM
        (fun line => line.foldlM (flat.withColours colours).applyMove board) = .ok boards ∧
      (flat.withColours colours).countNodes (first + second) board =
        .sum (boards.map ((flat.withColours colours).countNodes second))) := by
  have bounded := Bounded.withColours flat bounded_flat colours
  generalize flat.withColours colours = rules at bounded ⊢
  refine ⟨fun depth => ⟨rules.nodup_lines bounded time depth board apart,
    rules.mem_lines_iff bounded time depth board apart,
    rules.countNodes_eq bounded time depth board apart⟩, ?_,
    rules.all_countNodes_succ bounded board apart, ?_⟩
  · intro line follows
    exact ⟨_, rules.foldlM_of_isLine bounded time board apart line follows⟩
  · intro first second positive
    refine ⟨(rules.lines time first board).map fun line => line.foldl rules.boardAfter board,
      mapM_eq_ok _ _ _ ?_, ?_⟩
    · intro line listed
      have follows := ((rules.mem_lines_iff bounded time first board apart line).mp listed).2
      exact rules.foldlM_of_isLine bounded time board apart line follows
    · rw [rules.countNodes_add bounded time first second positive board apart, List.map_map]
      rfl

/-- A pawn that can go ahead or take another one, which is guarded; a king stands nowhere. -/
def pawnExchange : Board where
  pieces :=
    [⟨.pawn, .white, .flat 4 3⟩, ⟨.king, .white, .invalid⟩, ⟨.pawn, .black, .flat 3 4⟩,
      ⟨.pawn, .black, .flat 2 5⟩]
  turn := .white

theorem countNodes_counts_lines_exchange :
    pawnExchange.Apart ∧
      (flat.withColours [.white, .black]).countNodes 2 pawnExchange = ⟨4, 1⟩ ∧
      ∃ boards, ((flat.withColours [.white, .black]).lines .zero 1 pawnExchange).mapM
          (fun line => line.foldlM (flat.withColours [.white, .black]).applyMove pawnExchange) =
          .ok boards ∧
        NodeCount.sum (boards.map ((flat.withColours [.white, .black]).countNodes 1)) = ⟨4, 1⟩ := by
  have apart : pawnExchange.Apart := by decide
  obtain ⟨counts, _, _, sums⟩ := countNodes_counts_lines [.white, .black] pawnExchange apart .zero
  have total : (flat.withColours [.white, .black]).countNodes 2 pawnExchange = ⟨4, 1⟩ := by
    rw [(counts 2).2.2]
    decide
  obtain ⟨boards, reached, split⟩ := sums 1 1 (by decide)
  exact ⟨apart, total, boards, reached, split.symm.trans total⟩

end GridChess.RuleSet
