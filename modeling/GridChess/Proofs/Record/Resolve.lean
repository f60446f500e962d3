import GridChess.Proofs.Board.Lookup
import GridChess.Proofs.Outcome
import GridChess.Proofs.Position.Text
import GridChess.Proofs.RuleSet.Geometry
import GridChess.Proofs.Timestamp.Text
import GridChess.Record

/-!
# Resolving the record of a match

The record of a match is refused exactly at the first position that is no cell of the board: the
pieces come first, then the moves, and the origin of a move before its target. If there is none,
resolving gives the match back. Pieces that stand apart are never taken to share a cell.
-/

set_option autoImplicit false

namespace GridChess

/-! ## Cells by their texts -/

namespace RuleSet

/-- Refuses the first position that is no cell of the board, by its text. -/
def requireCells (rules : RuleSet) (positions : List Position) : Except Error Unit :=
  match positions.find? (· ∉ rules.cells) with
  | none => .ok ()
  | some p => .error (.invalidFormat (toString p))

theorem requireCells_append (rules : RuleSet) (first second : List Position) :
    rules.requireCells (first ++ second) =
      (rules.requireCells first >>= fun _ => rules.requireCells second) := by
  unfold requireCells
  rw [List.find?_append]
  cases first.find? (· ∉ rules.cells) with
  | none => rfl
  | some p => rfl

theorem requireCells_cons (rules : RuleSet) (p : Position) (positions : List Position) :
    rules.requireCells (p :: positions) =
      (rules.requireCells [p] >>= fun _ => rules.requireCells positions) :=
  rules.requireCells_append [p] positions

theorem requireCells_eq_ok (rules : RuleSet) (positions : List Position)
    (inside : ∀ p ∈ positions, p ∈ rules.cells) : rules.requireCells positions = .ok () := by
  unfold requireCells
  rw [List.find?_eq_none.mpr fun p member => by simpa using inside p member]

/-- A position is read from its text if it is a cell of the board, and refused otherwise. -/
def ReadsCells (rules : RuleSet) : Prop :=
  ∀ p : Position,
    rules.readPosition (toString p) = (rules.requireCells [p] >>= fun _ => .ok p)

theorem readPosition_eq (rules : RuleSet) (p : Position)
    (read : rules.readPosition? (toString p) = if p ∈ rules.cells then some p else none) :
    rules.readPosition (toString p) = (rules.requireCells [p] >>= fun _ => .ok p) := by
  unfold readPosition requireCells
  rw [read]
  by_cases inside : p ∈ rules.cells
  · rw [if_pos inside, List.find?_cons_of_neg (by simpa using inside)]
    rfl
  · rw [if_neg inside, List.find?_cons_of_pos (by simpa using inside)]
    rfl

theorem readsCells_flat : ReadsCells .flat := by
  intro p
  have cells : p ∈ flat.cells ↔ p.onFlatBoard = true := Flat.mem_cells_iff p
  refine readPosition_eq .flat p ?_
  simp only [cells]
  exact Position.readFlat?_toString p

theorem readsCells_hyper : ReadsCells .hyper := by
  intro p
  have cells : p ∈ hyper.cells ↔ p.onHyperBoard = true := Hyper.mem_cells_iff p
  refine readPosition_eq .hyper p ?_
  simp only [cells]
  exact Position.readHyper?_toString p

theorem Shipped.readsCells (rules : RuleSet) (shipped : rules.Shipped) : rules.ReadsCells := by
  cases shipped with
  | flat => exact readsCells_flat
  | hyper => exact readsCells_hyper

/-- The registry of the two boards knows them by their names. -/
theorem Shipped.registered (rules : RuleSet) (shipped : rules.Shipped) :
    Registry.default.get rules.name = .ok rules := by
  cases shipped with
  | flat => rfl
  | hyper => rfl

end RuleSet

/-! ## Pieces -/

theorem Piece.resolve_toRecord (rules : RuleSet) (reads : rules.ReadsCells) (placed : List Piece)
    (piece : Piece)
    (away : ∀ other ∈ placed, other.position.sameCell piece.position = false) :
    piece.toRecord.resolve rules placed =
      (rules.requireCells [piece.position] >>= fun _ => .ok piece) := by
  have alone : placed.any (·.position.sameCell piece.position) = false := by
    rw [List.any_eq_false]
    intro other member
    simp [away other member]
  have read := reads piece.position
  unfold PieceRecord.resolve Piece.toRecord
  simp only [read, bind_assoc, ok_bind, alone, Bool.false_eq_true, if_false]
  rfl

theorem resolvePieces_toRecord (rules : RuleSet) (reads : rules.ReadsCells)
    (placed pieces : List Piece)
    (apart : (placed ++ pieces).Pairwise fun a b => a.position.sameCell b.position = false) :
    resolvePieces rules placed (pieces.map Piece.toRecord) =
      (rules.requireCells (pieces.map Piece.position) >>= fun _ => .ok (placed ++ pieces)) := by
  induction pieces generalizing placed with
  | nil =>
    rw [List.append_nil]
    rfl
  | cons piece pieces ih =>
    have away : ∀ other ∈ placed, other.position.sameCell piece.position = false :=
      fun other member => (List.pairwise_append.mp apart).2.2 other member piece (by simp)
    rw [← List.singleton_append, ← List.append_assoc] at apart
    have later := ih (placed ++ [piece]) apart
    rw [List.append_assoc, List.singleton_append] at later
    rw [List.map_cons, List.map_cons, rules.requireCells_cons, resolvePieces,
      Piece.resolve_toRecord rules reads placed piece away, bind_assoc, bind_assoc]
    simp only [ok_bind, later]

/-! ## Moves -/

/-- Where moves lead from and to, in order. -/
def Move.cells (move : Move) : List Position := [move.origin, move.target]

theorem Move.resolve_toRecord (rules : RuleSet) (reads : rules.ReadsCells) (move : Move) :
    move.toRecord.resolve rules = (rules.requireCells move.cells >>= fun _ => .ok move) := by
  have origin := reads move.origin
  have target := reads move.target
  unfold MoveRecord.resolve Move.toRecord Move.cells
  rw [rules.requireCells_cons]
  simp only [origin, target, bind_assoc, ok_bind]
  rfl

theorem mapM_resolve_toRecord (rules : RuleSet) (reads : rules.ReadsCells) (moves : List Move) :
    (moves.map Move.toRecord).mapM (MoveRecord.resolve rules) =
      (rules.requireCells (moves.flatMap Move.cells) >>= fun _ => .ok moves) := by
  induction moves with
  | nil => rfl
  | cons move moves ih =>
    rw [List.map_cons, List.mapM_cons, List.flatMap_cons, rules.requireCells_append,
      Move.resolve_toRecord rules reads move, ih]
    simp only [bind_assoc, ok_bind]
    rfl

/-! ## Matches -/

/-- The record with its start rounded down to the second. -/
def MatchRecord.truncated (record : MatchRecord) : MatchRecord :=
  { record with start := record.start.map Timestamp.truncated }

namespace Match

/-- Every position in the match, in the order in which they are resolved. -/
def positions (game : Match) : List Position :=
  game.board.pieces.map Piece.position ++ game.moves.flatMap Move.cells

/-- The record of the match with the start as given. -/
def record (game : Match) (start : Option Timestamp) : MatchRecord :=
  ⟨game.rules.name, game.board.toRecord, start, game.moves.map Move.toRecord⟩

/-- Resolving the record of a match gives the match back, or refuses its first position that is
no cell. -/
theorem resolve_record (game : Match) (registry : Registry)
    (registered : registry.get game.rules.name = .ok game.rules)
    (reads : game.rules.ReadsCells) (apart : game.board.Apart) (start : Option Timestamp) :
    (game.record start).resolve registry =
      (game.rules.requireCells game.positions >>= fun _ =>
        .ok { game with start := start.map Timestamp.instant }) := by
  have pieces := resolvePieces_toRecord game.rules reads [] game.board.pieces apart
  have moves := mapM_resolve_toRecord game.rules reads game.moves
  unfold MatchRecord.resolve record positions Board.toRecord
  rw [RuleSet.requireCells_append]
  simp only [registered, pieces, moves, bind_assoc, ok_bind, List.nil_append]
  rfl

/-! ## The start -/

/-- The start, if there is one, has a timestamp: it lies between 1970 and the year 9999. -/
def Recordable (game : Match) : Prop :=
  ∀ t ∈ game.start, 0 ≤ t.nanoseconds ∧ t.nanoseconds < 253402300800 * 1000000000

/-- The match as it is stored, with its start rounded down to the second. -/
def truncated (game : Match) : Match := { game with start := game.start.map Instant.truncated }

theorem toTimestamp_instant (t : Timestamp) : t.instant.toTimestamp = .ok t := by
  have late : t.instant.isBeforeEpoch = false :=
    decide_eq_false (Int.not_lt.mpr (Int.natCast_nonneg t.nanoseconds))
  unfold Instant.toTimestamp
  rw [late, Timestamp.ofInstant?_instant]
  rfl

/-- A match whose start is a timestamp has the record with that timestamp. -/
theorem toRecord_of_stamp (game : Match) (start : Option Timestamp)
    (same : start.map Timestamp.instant = game.start) :
    game.toRecord = .ok (game.record start) := by
  unfold toRecord startRecord record
  rw [← same]
  cases start with
  | none => rfl
  | some t =>
    rw [Option.map_some, Option.mapM_some, toTimestamp_instant]
    rfl

theorem stamp_truncated (game : Match) (start : Option Timestamp)
    (same : start.map Timestamp.instant = game.start) :
    (start.map Timestamp.truncated).map Timestamp.instant = game.truncated.start := by
  unfold truncated
  rw [← same, Option.map_map, Option.map_map]
  rfl

/-- What resolving gives once the start has been rounded down. -/
theorem resolve_truncated (game : Match) (registry : Registry)
    (registered : registry.get game.rules.name = .ok game.rules)
    (reads : game.rules.ReadsCells) (apart : game.board.Apart) (start : Option Timestamp)
    (same : start.map Timestamp.instant = game.start) :
    (game.record start).truncated.resolve registry =
      (game.rules.requireCells game.positions >>= fun _ => .ok game.truncated) := by
  have resolved := game.resolve_record registry registered reads apart
    (start.map Timestamp.truncated)
  rw [game.stamp_truncated start same] at resolved
  exact resolved

/-- A match whose start has a timestamp has a record. -/
theorem toRecord_eq_ok (game : Match) (recordable : game.Recordable) :
    ∃ start, game.toRecord = .ok (game.record start) ∧
      start.map Timestamp.instant = game.start := by
  have stamped : ∃ start : Option Timestamp, start.map Timestamp.instant = game.start := by
    cases shape : game.start with
    | none => exact ⟨none, rfl⟩
    | some t =>
      obtain ⟨after, before⟩ := recordable t shape
      refine ⟨some ⟨t.nanoseconds.toNat, by omega⟩, ?_⟩
      rw [Option.map_some, Timestamp.instant, Int.toNat_of_nonneg after]
  obtain ⟨start, same⟩ := stamped
  exact ⟨start, game.toRecord_of_stamp start same, same⟩

theorem toRecord_beforeEpoch (game : Match) (t : Instant) (start : game.start = some t)
    (early : t.nanoseconds < 0) : game.toRecord = .error (.encode .startBeforeEpoch) := by
  have isEarly : t.isBeforeEpoch = true := decide_eq_true early
  have refused : t.toTimestamp = .error .startBeforeEpoch := by
    unfold Instant.toTimestamp
    rw [if_pos isEarly]
  have starts : game.start.mapM Instant.toTimestamp = .error .startBeforeEpoch := by
    rw [start, Option.mapM_some, refused]
    rfl
  unfold toRecord startRecord
  rw [starts]
  rfl

end Match

end GridChess
