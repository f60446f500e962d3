import GridChess.Proofs.Flat.Sight
import GridChess.Proofs.MoveTree.Step
import GridChess.Proofs.RuleSet.Hosts

/-!
# Mailboxes

A mailbox holds the kind and the colour on each cell of the flat board, and the colour to move.
It is all that matters about a board in play: boards with one mailbox allow the same moves, count
the same lines, and lead to boards with one mailbox again, whatever the order of their pieces and
whatever stands off the board (`play_of_mailbox`).
-/

set_option autoImplicit false

namespace GridChess

structure Mailbox where
  occupant : Position → Option (Kind × Colour)
  turn : Colour

namespace Mailbox

@[ext]
theorem ext (first second : Mailbox) (occupant : ∀ p, first.occupant p = second.occupant p)
    (turn : first.turn = second.turn) : first = second := by
  cases first
  cases second
  cases turn
  exact congrArg (Mailbox.mk · _) (funext occupant)

/-- The origin is emptied, what stood there comes to the target, and the turn is handed over. -/
def relocate (mailbox : Mailbox) (origin target : Position) (turn : Colour) : Mailbox where
  occupant p :=
    if p = target then mailbox.occupant origin
    else if p = origin then none
    else mailbox.occupant p
  turn := turn

end Mailbox

def Piece.figure (piece : Piece) : Kind × Colour := (piece.kind, piece.colour)

/-- A piece is known by its figure and its cell. -/
theorem Piece.eq_of_figure (piece other : Piece) (figure : piece.figure = other.figure)
    (position : piece.position = other.position) : piece = other := by
  cases piece
  cases other
  cases figure
  cases position
  rfl

namespace Board

/-- What can be seen on the cells of the flat board. All other cells are empty in a mailbox. -/
def mailbox (board : Board) : Mailbox where
  occupant p := if p.onFlatBoard then (board.at? p).map Piece.figure else none
  turn := board.turn

theorem occupant_mailbox (board : Board) (p : Position) (inside : p.onFlatBoard = true) :
    board.mailbox.occupant p = (board.at? p).map Piece.figure := if_pos inside

theorem figure_injective_at (board board' : Board) (p : Position)
    (same : (board.at? p).map Piece.figure = (board'.at? p).map Piece.figure) :
    board.at? p = board'.at? p := by
  cases found : board.at? p with
  | none =>
    rw [found, Option.map_none, eq_comm, Option.map_eq_none_iff] at same
    exact same.symm
  | some piece =>
    rw [found, Option.map_some, eq_comm, Option.map_eq_some_iff] at same
    obtain ⟨other, found', figure⟩ := same
    have stands := (board.mem_of_at? p piece found).2.1
    have stands' := (board'.mem_of_at? p other found').2.1
    rw [found', Piece.eq_of_figure other piece figure (stands'.trans stands.symm)]

/-- Boards have one mailbox if it is the same colour's turn and they look the same on the board. -/
theorem mailbox_eq_iff (board board' : Board) :
    board.mailbox = board'.mailbox ↔
      board.turn = board'.turn ∧ RuleSet.Flat.SameCells board board' := by
  constructor
  · intro same
    refine ⟨congrArg Mailbox.turn same, fun p inside => figure_injective_at board board' p ?_⟩
    rw [← board.occupant_mailbox p inside, ← board'.occupant_mailbox p inside, same]
  · rintro ⟨turn, cells⟩
    refine Mailbox.ext _ _ (fun p => ?_) turn
    by_cases inside : p.onFlatBoard = true
    · rw [board.occupant_mailbox p inside, board'.occupant_mailbox p inside, cells p inside]
    · exact (if_neg inside).trans (if_neg inside).symm

/-- On cells of the board, relocating pieces is relocating in the mailbox. -/
theorem mailbox_relocate (board : Board) (origin target : Position) (turn : Colour)
    (first : origin.onFlatBoard = true) (last : target.onFlatBoard = true) :
    (board.relocate origin target turn).mailbox = board.mailbox.relocate origin target turn := by
  refine Mailbox.ext _ _ (fun p => ?_) rfl
  have valid : target ≠ .invalid := by
    rintro rfl
    cases last
  unfold Mailbox.relocate
  simp only [board.occupant_mailbox origin first]
  by_cases arrived : p = target
  · subst arrived
    rw [if_pos rfl, occupant_mailbox _ p last, board.at?_relocate_target origin p turn valid,
      Option.map_map]
    rfl
  · rw [if_neg arrived]
    unfold mailbox
    simp only [board.at?_relocate_of_ne origin target p turn arrived]
    by_cases left : p = origin
    · simp [left]
    · simp [left]

end Board

namespace RuleSet.Flat

variable (colours : List Colour) (board board' : Board) (same : board.mailbox = board'.mailbox)

/-! ## Moves -/

include same in
/-- A piece that may move stands on both boards and may move there on both. -/
theorem allowed_of_mailbox (piece : Piece) (origin target : Position)
    (found : board.at? origin = some piece) (allowed : canMove board piece target = true) :
    board'.at? origin = some piece ∧ canMove board' piece target = true := by
  have cells := ((board.mailbox_eq_iff board').mp same).2
  have inside := (onFlatBoard_of_canMove board piece target allowed).1
  rw [(board.mem_of_at? origin piece found).2.1] at inside
  rw [← cells origin inside, ← canMove_congr board board' cells]
  exact ⟨found, allowed⟩

/-- What a move that is allowed does to the mailbox. -/
theorem mailbox_boardAfter (piece : Piece) (move : Move)
    (found : board.at? move.origin = some piece)
    (allowed : canMove board piece move.target = true) :
    ((flat.withColours colours).boardAfter board move).mailbox =
      board.mailbox.relocate move.origin move.target (nextPlayer colours board.turn) := by
  have inside := onFlatBoard_of_canMove board piece move.target allowed
  rw [(board.mem_of_at? move.origin piece found).2.1] at inside
  exact board.mailbox_relocate move.origin move.target _ inside.1 inside.2

include same in
theorem boardAfter_of_mailbox (piece : Piece) (move : Move)
    (found : board.at? move.origin = some piece)
    (allowed : canMove board piece move.target = true) :
    ((flat.withColours colours).boardAfter board move).mailbox =
      ((flat.withColours colours).boardAfter board' move).mailbox := by
  obtain ⟨found', allowed'⟩ :=
    allowed_of_mailbox board board' same piece move.origin move.target found allowed
  rw [mailbox_boardAfter colours board piece move found allowed,
    mailbox_boardAfter colours board' piece move found' allowed', same,
    ((board.mailbox_eq_iff board').mp same).1]

include same in
theorem applyMove_of_mailbox (move : Move) :
    (flat.withColours colours).applyMove board move =
        .error (.illegalMove move.origin move.target) ∧
      (flat.withColours colours).applyMove board' move =
        .error (.illegalMove move.origin move.target) ∨
    ∃ next next', (flat.withColours colours).applyMove board move = .ok next ∧
      (flat.withColours colours).applyMove board' move = .ok next' ∧
      next.mailbox = next'.mailbox ∧
      next.mailbox = board.mailbox.relocate move.origin move.target
        (nextPlayer colours board.turn) := by
  cases outcome : (flat.withColours colours).applyMove board move with
  | ok next =>
    obtain ⟨piece, found, allowed, rfl⟩ := (applyMove_eq_ok_iff _ board next move).mp outcome
    obtain ⟨found', allowed'⟩ :=
      allowed_of_mailbox board board' same piece move.origin move.target found allowed
    exact Or.inr ⟨_, _, rfl,
      (applyMove_eq_ok_iff _ board' _ move).mpr ⟨piece, found', allowed', rfl⟩,
      boardAfter_of_mailbox colours board board' same piece move found allowed,
      mailbox_boardAfter colours board piece move found allowed⟩
  | error fault =>
    obtain ⟨forbidden, rfl⟩ := (applyMove_eq_error_iff _ board move fault).mp outcome
    refine Or.inl ⟨rfl, (applyMove_eq_error_iff _ board' move _).mpr ⟨?_, rfl⟩⟩
    intro piece found'
    cases allowed' : canMove board' piece move.target with
    | false => exact allowed'
    | true =>
      obtain ⟨found, allowed⟩ :=
        allowed_of_mailbox board' board same.symm piece move.origin move.target found' allowed'
      have refused := forbidden piece found
      exact absurd (allowed.symm.trans refused) (by decide)

include same in
/-- A sequence of moves fails on both boards at the same move, or leads to one mailbox. -/
theorem foldlM_of_mailbox (moves : List Move) :
    (∃ fault, moves.foldlM (flat.withColours colours).applyMove board = .error fault ∧
      moves.foldlM (flat.withColours colours).applyMove board' = .error fault) ∨
    ∃ last last', moves.foldlM (flat.withColours colours).applyMove board = .ok last ∧
      moves.foldlM (flat.withColours colours).applyMove board' = .ok last' ∧
      last.mailbox = last'.mailbox := by
  induction moves generalizing board board' with
  | nil => exact Or.inr ⟨board, board', rfl, rfl, same⟩
  | cons move rest ih =>
    simp only [List.foldlM_cons]
    rcases applyMove_of_mailbox colours board board' same move with
      ⟨refused, refused'⟩ | ⟨next, next', made, made', one, _⟩
    · rw [refused, refused']
      exact Or.inl ⟨_, rfl, rfl⟩
    · rw [made, made']
      exact ih next next' one

/-! ## Lists of moves and counts -/

variable (apart : board.Apart) (apart' : board'.Apart)

include same apart apart' in
theorem mem_legalMoves_of_mailbox (time : Duration) (move : Move)
    (legal : move ∈ (flat.withColours colours).legalMoves board time) :
    move ∈ (flat.withColours colours).legalMoves board' time := by
  have bounded := Bounded.withColours flat bounded_flat colours
  obtain ⟨stamped, piece, found, kind, own, allowed⟩ :=
    (mem_legalMoves_iff _ bounded board apart time move).mp legal
  obtain ⟨found', allowed'⟩ :=
    allowed_of_mailbox board board' same piece move.origin move.target found allowed
  have turn := ((board.mailbox_eq_iff board').mp same).1
  exact (mem_legalMoves_iff _ bounded board' apart' time move).mpr
    ⟨stamped, piece, found', kind, own.trans turn, allowed'⟩

include same apart apart' in
theorem legalMoves_perm (time : Duration) :
    ((flat.withColours colours).legalMoves board time).Perm
      ((flat.withColours colours).legalMoves board' time) := by
  have bounded := Bounded.withColours flat bounded_flat colours
  refine (List.perm_ext_iff_of_nodup (nodup_legalMoves _ bounded board apart time)
    (nodup_legalMoves _ bounded board' apart' time)).mpr fun move => ⟨?_, ?_⟩
  · exact mem_legalMoves_of_mailbox colours board board' same apart apart' time move
  · exact mem_legalMoves_of_mailbox colours board' board same.symm apart' apart time move

include same apart apart' in
theorem countNodes_of_mailbox (depth : Nat) :
    (flat.withColours colours).countNodes depth board =
      (flat.withColours colours).countNodes depth board' := by
  have bounded := Bounded.withColours flat bounded_flat colours
  induction depth generalizing board board' with
  | zero => rfl
  | succ depth ih =>
    have perm := legalMoves_perm colours board board' same apart apart' .zero
    cases depth with
    | zero =>
      rw [countNodes_one _ board .zero, countNodes_one _ board' .zero,
        ← NodeCount.sum_perm _ _ (perm.map _)]
      congr 1
      apply List.map_congr_left
      intro move legal
      obtain ⟨_, piece, _, _, _, allowed⟩ :=
        (mem_legalMoves_iff _ bounded board apart .zero move).mp legal
      have inside := (onFlatBoard_of_canMove board piece move.target allowed).2
      unfold Board.isOccupied
      rw [((board.mailbox_eq_iff board').mp same).2 move.target inside]
    | succ depth =>
      rw [countNodes_step _ bounded board apart (depth + 1) (Nat.succ_pos depth) .zero,
        countNodes_step _ bounded board' apart' (depth + 1) (Nat.succ_pos depth) .zero,
        ← NodeCount.sum_perm _ _ (perm.map _)]
      congr 1
      apply List.map_congr_left
      intro move legal
      obtain ⟨_, piece, found, _, _, allowed⟩ :=
        (mem_legalMoves_iff _ bounded board apart .zero move).mp legal
      exact ih _ _ (boardAfter_of_mailbox colours board board' same piece move found allowed)
        (apart_boardAfter _ board apart move) (apart_boardAfter _ board' apart' move)

/-- Boards with one mailbox, whose pieces stand apart, are played alike on the flat board: a piece
may go to the same cells, the same moves are listed, the same lines are counted, and a move is
refused on both for the same reason or made on both. A move that is made does the same to both
mailboxes: it empties the origin, puts what stood there on the target and hands over the turn. So
they stay alike through any sequence of moves. -/
theorem play_of_mailbox (colours : List Colour) (board board' : Board) (apart : board.Apart)
    (apart' : board'.Apart) (same : board.mailbox = board'.mailbox) :
    (∀ piece target, (flat.withColours colours).canMove board piece target =
      (flat.withColours colours).canMove board' piece target) ∧
    (∀ time, ((flat.withColours colours).legalMoves board time).Perm
      ((flat.withColours colours).legalMoves board' time)) ∧
    (∀ depth, (flat.withColours colours).countNodes depth board =
      (flat.withColours colours).countNodes depth board') ∧
    (∀ move, (flat.withColours colours).applyMove board move =
          .error (.illegalMove move.origin move.target) ∧
        (flat.withColours colours).applyMove board' move =
          .error (.illegalMove move.origin move.target) ∨
      ∃ next next', (flat.withColours colours).applyMove board move = .ok next ∧
        (flat.withColours colours).applyMove board' move = .ok next' ∧
        next.mailbox = next'.mailbox ∧
        next.mailbox = board.mailbox.relocate move.origin move.target
          (nextPlayer colours board.turn)) ∧
    (∀ moves : List Move,
      (∃ fault, moves.foldlM (flat.withColours colours).applyMove board = .error fault ∧
        moves.foldlM (flat.withColours colours).applyMove board' = .error fault) ∨
      ∃ last last', moves.foldlM (flat.withColours colours).applyMove board = .ok last ∧
        moves.foldlM (flat.withColours colours).applyMove board' = .ok last' ∧
        last.mailbox = last'.mailbox) :=
  ⟨canMove_congr board board' ((board.mailbox_eq_iff board').mp same).2,
    legalMoves_perm colours board board' same apart apart',
    countNodes_of_mailbox colours board board' same apart apart',
    applyMove_of_mailbox colours board board' same,
    foldlM_of_mailbox colours board board' same⟩

/-- A pawn and the rook that it can take. -/
def pawnAndRook : Board where
  pieces := [⟨.pawn, .white, .flat 4 3⟩, ⟨.rook, .black, .flat 3 4⟩]
  turn := .white

/-- The same in another order, among pieces that stand off the board, on the other board, or
nowhere. -/
def pawnAndRookAmongStrays : Board where
  pieces :=
    [⟨.rook, .black, .flat 3 4⟩, ⟨.queen, .white, .flat 9 (-3)⟩, ⟨.king, .white, .invalid⟩,
      ⟨.pawn, .white, .flat 4 3⟩, ⟨.king, .black, .hyper 4 3 0 0⟩]
  turn := .white

theorem play_of_mailbox_strays :
    pawnAndRook.Apart ∧ pawnAndRookAmongStrays.Apart ∧
      pawnAndRook.mailbox = pawnAndRookAmongStrays.mailbox ∧
      (flat.withColours [.white, .black]).countNodes 2 pawnAndRookAmongStrays = ⟨11, 1⟩ := by
  have apart : pawnAndRook.Apart := by decide
  have apart' : pawnAndRookAmongStrays.Apart := by decide
  have listed : ∀ p ∈ cells, pawnAndRook.at? p = pawnAndRookAmongStrays.at? p := by decide
  have same : pawnAndRook.mailbox = pawnAndRookAmongStrays.mailbox :=
    (Board.mailbox_eq_iff _ _).mpr ⟨rfl, fun p inside => listed p ((mem_cells_iff p).mpr inside)⟩
  have counts := (play_of_mailbox [.white, .black] _ _ apart apart' same).2.2.1 2
  refine ⟨apart, apart', same, counts.symm.trans ?_⟩
  decide

end RuleSet.Flat

end GridChess
