import GridChess.Proofs.Flat.Gait
import GridChess.Proofs.Match.Material

/-!
# Games from the default board

In a game on the flat board that begins on its default board, no colour ever has a second king or
two bishops on cells of one colour, and no pawn gets behind the rank that it starts on. Every move
of a pawn takes it nearer to its last rank, and captures only take pawns away, so the ranks that
the pawns have before them at the start, six for each of sixteen, bound the number of their moves.
-/

set_option autoImplicit false

namespace GridChess

open RuleSet.Flat

/-! ## The ranks before a pawn -/

namespace Piece

/-- The rank at the end of the way of a pawn. -/
def lastRank : Colour → Int
  | .white => 7
  | .black => 0

/-- How many ranks a pawn on the flat board has before it; other pieces have none. -/
def ranksLeft (piece : Piece) : Nat :=
  match piece.kind, piece.position with
  | .pawn, .flat _ rank => (lastRank piece.colour - rank).natAbs
  | _, _ => 0

/-- Whether the piece is a pawn behind the rank that its colour starts on. -/
def isBehind (piece : Piece) : Bool :=
  match piece.kind, piece.position with
  | .pawn, .flat _ rank =>
    rank * forward piece.colour < pawnRank piece.colour * forward piece.colour
  | _, _ => false

def isBishopOn (colour cell : Colour) (piece : Piece) : Bool :=
  piece.kind = .bishop && piece.colour = colour && piece.position.cellColour = cell

theorem ranksLeft_of_ne_pawn (piece : Piece) (other : piece.kind ≠ .pawn) :
    piece.ranksLeft = 0 := by
  unfold ranksLeft
  split
  · rename_i pawn _
    exact absurd pawn other
  · rfl

theorem ranksLeft_pawn (piece : Piece) (file rank : Int) (pawn : piece.kind = .pawn)
    (stands : piece.position = .flat file rank) :
    piece.ranksLeft = (lastRank piece.colour - rank).natAbs := by
  unfold ranksLeft
  rw [pawn, stands]

theorem isBehind_pawn_iff (piece : Piece) (file rank : Int) (pawn : piece.kind = .pawn)
    (stands : piece.position = .flat file rank) :
    piece.isBehind = true ↔ rank * forward piece.colour < pawnRank piece.colour *
      forward piece.colour := by
  unfold isBehind
  rw [pawn, stands]
  exact decide_eq_true_iff

theorem pawn_of_isBehind (piece : Piece) (behind : piece.isBehind = true) :
    piece.kind = .pawn := by
  unfold isBehind at behind
  split at behind
  · assumption
  · cases behind

/-- A pawn that moves comes nearer to its last rank. -/
theorem ranksLeft_moved (board : Board) (piece : Piece) (target : Position)
    (allowed : canMove board piece target = true) :
    ({ piece with position := target } : Piece).ranksLeft +
      (if piece.kind = .pawn then 1 else 0) ≤ piece.ranksLeft := by
  by_cases pawn : piece.kind = .pawn
  · obtain ⟨file, rank, file', rank', stands, rfl, up, down⟩ :=
      (gait_of_canMove board piece target allowed).pawn pawn
    have inside := onFlatBoard_of_canMove board piece _ allowed
    rw [stands, onFlatBoard_iff, onFlatBoard_iff] at inside
    rw [if_pos pawn, ranksLeft_pawn piece file rank pawn stands,
      ranksLeft_pawn { piece with position := .flat file' rank' } file' rank' pawn rfl]
    cases shade : piece.colour with
    | white =>
      have nearer := up shade
      simp only [lastRank]
      omega
    | black =>
      have nearer := down shade
      simp only [lastRank]
      omega
  · have idle := ranksLeft_of_ne_pawn { piece with position := target } pawn
    rw [if_neg pawn, idle]
    exact Nat.zero_le _

/-- No pawn gets behind its first rank by moving. -/
theorem isBehind_of_moved (board : Board) (piece : Piece) (target : Position)
    (allowed : canMove board piece target = true)
    (behind : isBehind { piece with position := target } = true) : piece.isBehind = true := by
  have pawn : piece.kind = .pawn := pawn_of_isBehind { piece with position := target } behind
  obtain ⟨file, rank, file', rank', stands, rfl, up, down⟩ :=
    (gait_of_canMove board piece target allowed).pawn pawn
  rw [isBehind_pawn_iff { piece with position := .flat file' rank' } file' rank' pawn rfl]
    at behind
  rw [isBehind_pawn_iff piece file rank pawn stands]
  cases shade : piece.colour with
  | white =>
    have advanced := up shade
    simp only [shade, forward, pawnRank] at behind ⊢
    omega
  | black =>
    have advanced := down shade
    simp only [shade, forward, pawnRank] at behind ⊢
    omega

/-- Bishops never change between cells of the two colours. -/
theorem isBishopOn_of_moved (colour cell : Colour) (board : Board) (piece : Piece)
    (target : Position) (allowed : canMove board piece target = true)
    (moved : isBishopOn colour cell { piece with position := target } = true) :
    piece.isBishopOn colour cell = true := by
  unfold isBishopOn at moved ⊢
  simp only [Bool.and_eq_true, decide_eq_true_eq] at moved ⊢
  obtain ⟨⟨bishop, own⟩, shade⟩ := moved
  have kept := (gait_of_canMove board piece target allowed).bishop bishop
  exact ⟨⟨bishop, own⟩, kept.symm.trans shade⟩

end Piece

/-! ## The ranks before all pawns -/

/-- The ranks that the pieces have before them, all told. -/
def ranksLeft : List Piece → Nat
  | [] => 0
  | piece :: pieces => piece.ranksLeft + ranksLeft pieces

theorem ranksLeft_append (first second : List Piece) :
    ranksLeft (first ++ second) = ranksLeft first + ranksLeft second := by
  induction first with
  | nil => exact (Nat.zero_add _).symm
  | cons piece pieces ih =>
    rw [List.cons_append, ranksLeft, ranksLeft, ih, Nat.add_assoc]

theorem ranksLeft_perm (pieces pieces' : List Piece) (perm : pieces.Perm pieces') :
    ranksLeft pieces = ranksLeft pieces' := by
  induction perm with
  | nil => rfl
  | cons piece _ ih => rw [ranksLeft, ranksLeft, ih]
  | swap piece other pieces => exact Nat.add_left_comm _ _ _
  | trans _ _ first second => exact first.trans second

/-- A move of a pawn leaves fewer ranks than there were, and no move leaves more. -/
theorem Board.Exchange.ranksLeft_le (before after : Board) (piece : Piece) (target : Position)
    (exchange : before.Exchange after piece target)
    (allowed : canMove before piece target = true) :
    ranksLeft after.pieces + (if piece.kind = .pawn then 1 else 0) ≤ ranksLeft before.pieces := by
  have moved := piece.ranksLeft_moved before target allowed
  rw [exchange.pieces, ranksLeft_perm _ _ exchange.material, ranksLeft_append, ranksLeft,
    ranksLeft, ranksLeft, ranksLeft_append]
  omega

namespace Match

/-- Whether the move was made with a pawn, whatever kind it names. -/
def Ply.isPawnMove (ply : Ply) : Bool :=
  (ply.board.at? ply.move.origin).any (·.kind = .pawn)

theorem ranksLeft_run (game : Match) (flat : game.OnFlatBoard) (calls : List Call) :
    ranksLeft (game.run calls).board.pieces + (game.plies calls).countP Ply.isPawnMove ≤
      ranksLeft game.board.pieces := by
  refine plies_induction
    (fun before plies after => before.OnFlatBoard →
      ranksLeft after.board.pieces + plies.countP Ply.isPawnMove ≤
        ranksLeft before.board.pieces) ?_ ?_ game calls flat
  · intro game _
    exact Nat.le_refl _
  · intro game move piece plies final accepts later flat
    -- The first move pays for itself, and the others pay from what it leaves.
    have allowed := accepts.allowed
    rw [flat.1] at allowed
    have rest := later (flat.after game move piece accepts)
    have now := (accepts.exchange game flat move piece).ranksLeft_le _ _ _ _ allowed
    have mover : Ply.isPawnMove ⟨game.board, move⟩ = decide (piece.kind = .pawn) := by
      unfold Ply.isPawnMove
      rw [accepts.found]
      rfl
    rw [List.countP_cons, mover]
    simp only [decide_eq_true_eq]
    omega

end Match

/-! ## Boards of orthodox games -/

/-- The pieces are some of those that a game begins with, as far as bishops, kings and pawns show
it. -/
structure Board.Orthodox (board : Board) : Prop where
  bishops : ∀ colour cell, board.pieces.countP (Piece.isBishopOn colour cell) ≤ 1
  kings : ∀ colour, board.count .king colour ≤ 1
  pawns : ∀ piece ∈ board.pieces, piece.kind = .pawn → ∃ file rank,
    piece.position = .flat file rank ∧ (piece.colour = .white → 1 ≤ rank ∧ rank ≤ 7) ∧
      (piece.colour = .black → 0 ≤ rank ∧ rank ≤ 6)

theorem Piece.rank_of_not_behind (piece : Piece) (inside : piece.position.onFlatBoard = true)
    (pawn : piece.kind = .pawn) (ahead : ¬piece.isBehind = true) :
    ∃ file rank, piece.position = .flat file rank ∧
      (piece.colour = .white → 1 ≤ rank ∧ rank ≤ 7) ∧
      (piece.colour = .black → 0 ≤ rank ∧ rank ≤ 6) := by
  cases stands : piece.position with
  | flat file rank =>
    rw [stands, onFlatBoard_iff] at inside
    rw [piece.isBehind_pawn_iff file rank pawn stands] at ahead
    refine ⟨file, rank, rfl, ?_, ?_⟩
    · intro white
      simp only [white, forward, pawnRank] at ahead
      omega
    · intro black
      simp only [black, forward, pawnRank] at ahead
      omega
  | hyper x y z w =>
    rw [stands] at inside
    cases inside
  | invalid =>
    rw [stands] at inside
    cases inside

namespace Match

theorem onFlatBoard_new (start : Option Instant) : (new .flat start).OnFlatBoard :=
  ⟨rfl, hosts_defaultBoard⟩

theorem orthodox_run (start : Option Instant) (calls : List Call) :
    ((new .flat start).run calls).board.Orthodox where
  bishops := by
    intro colour cell
    have first : defaultBoard.pieces.countP (Piece.isBishopOn colour cell) ≤ 1 := by
      cases colour <;> cases cell <;> decide
    exact Nat.le_trans (countP_run_le _ (onFlatBoard_new start) calls _
      (Piece.isBishopOn_of_moved colour cell)) first
  kings := by
    intro colour
    have first : defaultBoard.count .king colour ≤ 1 := by
      cases colour <;> decide
    exact Nat.le_trans (count_run_le _ (onFlatBoard_new start) calls .king colour) first
  pawns := by
    intro piece member pawn
    have nobody : defaultBoard.pieces.countP Piece.isBehind = 0 := by decide
    have still := countP_run_le _ (onFlatBoard_new start) calls _ Piece.isBehind_of_moved
    have ahead := List.countP_eq_zero.mp (Nat.le_zero.mp (Nat.le_trans still
      (Nat.le_of_eq nobody))) piece member
    have hosts := (hosts_iff _).mp ((onFlatBoard_new start).run _ calls).2
    exact piece.rank_of_not_behind (hosts.2 piece member) pawn ahead

/-- In a game on the flat board from its default board, whatever calls are made: each colour has
at most one king, and at most one bishop on the cells of each colour. White pawns stand on the
second to the last rank and black pawns on the first to the last but one. At most 96 of the moves
in the log were made with pawns. And on all boards of all games, a move that the rules apply takes
a bishop to a cell of the colour that it stands on, a knight to a cell of the other colour, and a
pawn forward. -/
theorem run_stays_orthodox (start : Option Instant) (calls : List Call) :
    ((new .flat start).run calls).board.Orthodox ∧
    ((new .flat start).run calls).moves = ((new .flat start).plies calls).map Ply.move ∧
    ((new .flat start).plies calls).countP Ply.isPawnMove ≤ 96 ∧
    (∀ board move next, RuleSet.flat.applyMove board move = .ok next →
      ∃ piece, board.at? move.origin = some piece ∧ Gait piece move.target) := by
  refine ⟨orthodox_run start calls, moves_run _ calls, ?_, ?_⟩
  · have all : ranksLeft defaultBoard.pieces = 96 := by decide
    have spent := (new .flat start).ranksLeft_run (onFlatBoard_new start) calls
    have begun : ranksLeft (new .flat start).board.pieces = 96 := all
    omega
  · intro board move next applied
    obtain ⟨piece, found, allowed, _⟩ :=
      (RuleSet.applyMove_eq_ok_iff .flat board next move).mp applied
    exact ⟨piece, found, gait_of_canMove board piece move.target allowed⟩

end Match

end GridChess
