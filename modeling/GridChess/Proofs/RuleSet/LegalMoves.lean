import GridChess.Proofs.Board.Lookup
import GridChess.Proofs.Match.Apply
import GridChess.Proofs.RuleSet.Geometry

/-!
# Legal moves

The moves that a rule set lists are those that a match accepts, each listed once.
-/

set_option autoImplicit false

namespace GridChess.RuleSet

theorem mem_reachable_iff (rules : RuleSet) (bounded : rules.Bounded) (board : Board)
    (piece : Piece) (target : Position) :
    target ∈ rules.reachable board piece ↔ rules.canMove board piece target = true := by
  unfold reachable
  rw [List.mem_filter]
  exact ⟨And.right, fun allowed => ⟨bounded.target_mem board piece target allowed, allowed⟩⟩

/-- A piece that may move stands on a cell. -/
theorem Bounded.origin_valid (rules : RuleSet) (bounded : rules.Bounded) (board : Board)
    (piece : Piece) (target : Position) (allowed : rules.canMove board piece target = true) :
    piece.position ≠ .invalid := by
  intro invalid
  have member := bounded.origin_mem board piece target allowed
  rw [invalid] at member
  exact bounded.valid_cells member

/-- The moves listed for one piece. -/
def movesOf (rules : RuleSet) (board : Board) (time : Duration) (piece : Piece) : List Move :=
  (rules.reachable board piece).map fun target =>
    { kind := piece.kind, origin := piece.position, target, time }

theorem legalMoves_eq_flatMap (rules : RuleSet) (board : Board) (time : Duration) :
    rules.legalMoves board time =
      (board.pieces.filter (·.colour = board.turn)).flatMap (rules.movesOf board time) := rfl

theorem mem_movesOf_iff (rules : RuleSet) (bounded : rules.Bounded) (board : Board)
    (time : Duration) (piece : Piece) (move : Move) :
    move ∈ rules.movesOf board time piece ↔
      move.time = time ∧ piece.kind = move.kind ∧ piece.position = move.origin ∧
        rules.canMove board piece move.target = true := by
  unfold movesOf
  rw [List.mem_map]
  constructor
  · rintro ⟨target, reached, rfl⟩
    exact ⟨rfl, rfl, rfl, (rules.mem_reachable_iff bounded board piece target).mp reached⟩
  · rintro ⟨rfl, kind, stands, allowed⟩
    refine ⟨move.target, (rules.mem_reachable_iff bounded board piece _).mpr allowed, ?_⟩
    rw [kind, stands]

/-- What is listed for the side to move: the moves of the pieces found on their origins. -/
theorem mem_legalMoves_iff (rules : RuleSet) (bounded : rules.Bounded) (board : Board)
    (apart : board.Apart) (time : Duration) (move : Move) :
    move ∈ rules.legalMoves board time ↔
      move.time = time ∧ ∃ piece, board.at? move.origin = some piece ∧ piece.kind = move.kind ∧
        piece.colour = board.turn ∧ rules.canMove board piece move.target = true := by
  rw [legalMoves_eq_flatMap, List.mem_flatMap]
  constructor
  · rintro ⟨piece, listed, moves⟩
    obtain ⟨stamped, kind, stands, allowed⟩ :=
      (rules.mem_movesOf_iff bounded board time piece move).mp moves
    obtain ⟨member, own⟩ := List.mem_filter.mp listed
    have found := board.at?_of_mem piece apart member
      (bounded.origin_valid rules board piece move.target allowed)
    rw [stands] at found
    exact ⟨stamped, piece, found, kind, of_decide_eq_true own, allowed⟩
  · rintro ⟨stamped, piece, found, kind, own, allowed⟩
    obtain ⟨member, stands, _⟩ := board.mem_of_at? move.origin piece found
    refine ⟨piece, List.mem_filter.mpr ⟨member, decide_eq_true own⟩, ?_⟩
    exact (rules.mem_movesOf_iff bounded board time piece move).mpr
      ⟨stamped, kind, stands, allowed⟩

theorem nodup_movesOf (rules : RuleSet) (bounded : rules.Bounded) (board : Board)
    (time : Duration) (piece : Piece) : (rules.movesOf board time piece).Nodup := by
  refine nodup_map _ _ (List.Pairwise.filter _ bounded.nodup_cells) ?_
  intro target target' same
  cases same
  rfl

/-- Two listed moves have the same origin only if they are moves of the same piece. -/
theorem nodup_legalMoves (rules : RuleSet) (bounded : rules.Bounded) (board : Board)
    (apart : board.Apart) (time : Duration) : (rules.legalMoves board time).Nodup := by
  rw [legalMoves_eq_flatMap]
  refine List.pairwise_flatMap.mpr ⟨?_, (List.Pairwise.filter _ apart).imp ?_⟩
  · intro piece _
    exact rules.nodup_movesOf bounded board time piece
  · intro a b away move first move' second same
    subst same
    obtain ⟨_, _, stands, allowed⟩ := (rules.mem_movesOf_iff bounded board time a move).mp first
    obtain ⟨_, _, stands', _⟩ := (rules.mem_movesOf_iff bounded board time b move).mp second
    have shared := Position.sameCell_iff.mpr
      ⟨stands.trans stands'.symm, bounded.origin_valid rules board a move.target allowed⟩
    rw [away] at shared
    cases shared

/-- The listed moves are the moves of known kind and time that a match accepts, whatever its
players, its start and its log, and none is listed twice. -/
theorem legalMoves_eq_accepted (rules : RuleSet) (shipped : rules.Shipped)
    (colours : List Colour) (board : Board) (apart : board.Apart) (start : Option Instant)
    (log : List Move) (time : Duration) :
    (∀ move, move ∈ (rules.withColours colours).legalMoves board time ↔
      move.time = time ∧
        (∃ piece, board.at? move.origin = some piece ∧ piece.kind = move.kind) ∧
        ∃ next, Match.apply ⟨rules.withColours colours, board, start, log⟩ move = .ok next) ∧
      ((rules.withColours colours).legalMoves board time).Nodup := by
  have bounded := Bounded.withColours rules (Shipped.bounded rules shipped) colours
  refine ⟨fun move => ?_, nodup_legalMoves _ bounded board apart time⟩
  rw [mem_legalMoves_iff _ bounded board apart]
  constructor
  · rintro ⟨stamped, piece, found, kind, own, allowed⟩
    exact ⟨stamped, ⟨piece, found, kind⟩, _,
      (Match.apply_eq_ok_iff _ _ move).mpr ⟨piece, found, own, allowed, rfl⟩⟩
  · rintro ⟨stamped, ⟨piece, found, kind⟩, next, accepted⟩
    obtain ⟨mover, found', own, allowed, _⟩ := (Match.apply_eq_ok_iff _ next move).mp accepted
    have same : piece = mover := Option.some.inj (found.symm.trans found')
    subst same
    exact ⟨stamped, piece, found, kind, own, allowed⟩

/-- A board on which only the pawn is in play: the other pieces stand off the board, on the
other board, or nowhere. -/
def strayBoard : Board where
  pieces :=
    [⟨.pawn, .white, .flat 4 1⟩, ⟨.rook, .white, .flat 9 (-3)⟩,
      ⟨.knight, .black, .hyper 0 0 0 0⟩, ⟨.king, .white, .invalid⟩, ⟨.king, .black, .invalid⟩]
  turn := .white

theorem legalMoves_strayBoard :
    strayBoard.Apart ∧
      ∃ next, Match.apply ⟨flat.withColours [.white, .black], strayBoard, none, []⟩
        ⟨.pawn, .flat 4 1, .flat 4 3, .zero⟩ = .ok next := by
  have apart : strayBoard.Apart := by decide
  have listed : (⟨.pawn, .flat 4 1, .flat 4 3, .zero⟩ : Move) ∈
      (flat.withColours [.white, .black]).legalMoves strayBoard .zero := by decide
  have accepted := legalMoves_eq_accepted flat .flat [.white, .black] strayBoard apart none []
    .zero
  exact ⟨apart, ((accepted.1 _).mp listed).2.2⟩

end GridChess.RuleSet
