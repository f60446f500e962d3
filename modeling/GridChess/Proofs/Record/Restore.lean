import GridChess.Proofs.Record.Resolve
import GridChess.Proofs.RuleSet.Hosts
import GridChess.Proofs.RuleSet.Texts
import GridChess.Record.Json
import GridChess.Record.Snapshot

/-!
# Restoring matches

A record is resolved unless something in it fails, and then the first failure is reported: of its
rule set, of a piece, or of a move, where a piece fails also if it stands on the cell of an earlier
one. Whatever is resolved keeps the record and is sound, so every match that is read from JSON or
from a snapshot is sound (`resolve_restores`).
-/

set_option autoImplicit false

namespace GridChess

/-! ## Pieces -/

/-- A piece fails after earlier ones: its text is no cell, or the cell of one of them. -/
inductive PieceRecord.Fails (rules : RuleSet) (earlier : List PieceRecord)
    (record : PieceRecord) : Error → Prop
  | unread (unknown : rules.readPosition? record.position = none) :
    Fails rules earlier record (.invalidFormat record.position)
  | shared (other : PieceRecord) (p : Position) (member : other ∈ earlier)
      (there : rules.readPosition? other.position = some p)
      (here : rules.readPosition? record.position = some p) :
    Fails rules earlier record (.decode (.sharedCell record.position))

/-- The cell of a piece is known by the text in its record. -/
theorem any_sameCell_iff (rules : RuleSet) (shipped : rules.Shipped) (placed : List Piece)
    (inside : ∀ piece ∈ placed, piece.position ∈ rules.cells) (p : Position) :
    placed.any (·.position.sameCell p) = true ↔
      ∃ other ∈ placed.map Piece.toRecord, rules.readPosition? other.position = some p := by
  have reads := RuleSet.Shipped.readPosition?_eq_some_iff rules shipped
  have known : ∀ piece ∈ placed,
      rules.readPosition? piece.toRecord.position = some piece.position :=
    fun piece member => (reads _ _).mpr ⟨inside piece member, rfl⟩
  rw [List.any_eq_true]
  constructor
  · rintro ⟨piece, member, same⟩
    refine ⟨piece.toRecord, List.mem_map_of_mem member, ?_⟩
    rw [known piece member, (Position.sameCell_iff.mp same).1]
  · rintro ⟨other, member, read⟩
    obtain ⟨piece, stands, rfl⟩ := List.mem_map.mp member
    rw [known piece stands] at read
    cases read
    refine ⟨piece, stands, Position.sameCell_iff.mpr ⟨rfl, ?_⟩⟩
    intro invalid
    have cell := inside piece stands
    rw [invalid] at cell
    exact (RuleSet.Shipped.bounded rules shipped).valid_cells cell

theorem PieceRecord.resolve_eq_error_iff (rules : RuleSet) (shipped : rules.Shipped)
    (placed : List Piece) (inside : ∀ piece ∈ placed, piece.position ∈ rules.cells)
    (record : PieceRecord) (fault : Error) :
    record.resolve rules placed = .error fault ↔
      record.Fails rules (placed.map Piece.toRecord) fault := by
  unfold resolve
  simp only [bind_eq_error_iff, RuleSet.readPosition_eq_ok_iff, RuleSet.readPosition_eq_error_iff]
  constructor
  · rintro (⟨unknown, rfl⟩ | ⟨p, read, fails⟩)
    · exact .unread unknown
    · split at fails
      · rename_i occupied
        cases fails
        obtain ⟨other, member, there⟩ :=
          (any_sameCell_iff rules shipped placed inside p).mp occupied
        exact .shared other p member there read
      · cases fails
  · intro fails
    cases fails with
    | unread unknown => exact Or.inl ⟨unknown, rfl⟩
    | shared other p member there here =>
      refine Or.inr ⟨p, here, ?_⟩
      rw [if_pos ((any_sameCell_iff rules shipped placed inside p).mpr ⟨other, member, there⟩)]
      rfl

/-- A piece that is resolved keeps its record, and stands on a cell away from the others. -/
theorem PieceRecord.resolve_eq_ok (rules : RuleSet) (shipped : rules.Shipped)
    (placed : List Piece) (record : PieceRecord) (piece : Piece)
    (resolved : record.resolve rules placed = .ok piece) :
    piece.toRecord = record ∧ piece.position ∈ rules.cells ∧
      ∀ other ∈ placed, other.position.sameCell piece.position = false := by
  unfold resolve at resolved
  obtain ⟨p, read, resolved⟩ := bind_eq_ok _ _ _ resolved
  obtain ⟨inside, text⟩ := (RuleSet.Shipped.readPosition?_eq_some_iff rules shipped _ p).mp
    ((rules.readPosition_eq_ok_iff _ p).mp read)
  split at resolved
  · cases resolved
  · rename_i free
    cases resolved
    refine ⟨?_, inside, ?_⟩
    · unfold Piece.toRecord
      rw [text]
    · simpa using free

theorem resolvePieces_eq_error_iff (rules : RuleSet) (shipped : rules.Shipped)
    (placed : List Piece) (inside : ∀ piece ∈ placed, piece.position ∈ rules.cells)
    (records : List PieceRecord) (fault : Error) :
    resolvePieces rules placed records = .error fault ↔
      FirstFails (fun earlier =>
        PieceRecord.Fails rules (placed.map Piece.toRecord ++ earlier)) records fault := by
  induction records generalizing placed with
  | nil =>
    constructor
    · intro fails
      cases fails
    · intro fails
      exact absurd fails (not_firstFails_nil _ fault)
  | cons record rest ih =>
    have step := PieceRecord.resolve_eq_error_iff rules shipped placed inside record
    rw [firstFails_cons_iff, resolvePieces, List.append_nil]
    simp only [← step]
    cases outcome : record.resolve rules placed with
    | error first => simp [error_bind]
    | ok piece =>
      obtain ⟨same, cell, _⟩ :=
        PieceRecord.resolve_eq_ok rules shipped placed record piece outcome
      have inside' : ∀ other ∈ placed ++ [piece], other.position ∈ rules.cells := by
        intro other member
        rcases List.mem_append.mp member with earlier | last
        · exact inside other earlier
        · rw [List.mem_singleton.mp last]
          exact cell
      have later := ih (placed ++ [piece]) inside'
      rw [List.map_append, List.map_singleton, same] at later
      simp only [List.append_assoc, List.singleton_append] at later
      simp [ok_bind, later]

/-- Pieces that are resolved keep their records, and stand apart on cells of the board. -/
theorem resolvePieces_eq_ok (rules : RuleSet) (shipped : rules.Shipped) (turn : Colour)
    (placed pieces : List Piece) (hosts : rules.Hosts ⟨placed, turn⟩) (records : List PieceRecord)
    (resolved : resolvePieces rules placed records = .ok pieces) :
    pieces.map Piece.toRecord = placed.map Piece.toRecord ++ records ∧
      rules.Hosts ⟨pieces, turn⟩ := by
  induction records generalizing placed with
  | nil =>
    cases resolved
    exact ⟨(List.append_nil _).symm, hosts⟩
  | cons record rest ih =>
    obtain ⟨piece, outcome, resolved⟩ := bind_eq_ok _ _ _ resolved
    obtain ⟨same, cell, away⟩ :=
      PieceRecord.resolve_eq_ok rules shipped placed record piece outcome
    have hosts' : rules.Hosts ⟨placed ++ [piece], turn⟩ := by
      refine ⟨List.pairwise_append.mpr ⟨hosts.apart, List.pairwise_singleton _ _, ?_⟩, ?_⟩
      · intro other member last inside
        rw [List.mem_singleton.mp inside]
        exact away other member
      · intro other member
        rcases List.mem_append.mp member with earlier | last
        · exact hosts.inside other earlier
        · rw [List.mem_singleton.mp last]
          exact cell
    obtain ⟨records, hosted⟩ := ih (placed ++ [piece]) hosts' resolved
    refine ⟨?_, hosted⟩
    rw [records, List.map_append, List.map_singleton, same, List.append_assoc]
    rfl

/-! ## Moves -/

/-- A move fails: the text of its origin is no cell, or else that of its target. -/
inductive MoveRecord.Fails (rules : RuleSet) (record : MoveRecord) : Error → Prop
  | origin (unknown : rules.readPosition? record.origin = none) :
    Fails rules record (.invalidFormat record.origin)
  | target (p : Position) (read : rules.readPosition? record.origin = some p)
      (unknown : rules.readPosition? record.target = none) :
    Fails rules record (.invalidFormat record.target)

theorem MoveRecord.resolve_eq_error_iff (rules : RuleSet) (record : MoveRecord) (fault : Error) :
    record.resolve rules = .error fault ↔ record.Fails rules fault := by
  unfold resolve
  simp only [bind_eq_error_iff, RuleSet.readPosition_eq_ok_iff, RuleSet.readPosition_eq_error_iff]
  constructor
  · rintro (⟨unknown, rfl⟩ | ⟨p, read, ⟨unknown, rfl⟩ | ⟨q, _, impossible⟩⟩)
    · exact .origin unknown
    · exact .target p read unknown
    · cases impossible
  · intro fails
    cases fails with
    | origin unknown => exact Or.inl ⟨unknown, rfl⟩
    | target p read unknown => exact Or.inr ⟨p, read, Or.inl ⟨unknown, rfl⟩⟩

theorem MoveRecord.resolve_eq_ok (rules : RuleSet) (shipped : rules.Shipped)
    (record : MoveRecord) (move : Move) (resolved : record.resolve rules = .ok move) :
    move.toRecord = record ∧ ∀ p ∈ move.cells, p ∈ rules.cells := by
  have reads := RuleSet.Shipped.readPosition?_eq_some_iff rules shipped
  unfold resolve at resolved
  obtain ⟨p, first, resolved⟩ := bind_eq_ok _ _ _ resolved
  obtain ⟨q, second, resolved⟩ := bind_eq_ok _ _ _ resolved
  cases resolved
  obtain ⟨origin, originText⟩ := (reads _ p).mp ((rules.readPosition_eq_ok_iff _ p).mp first)
  obtain ⟨target, targetText⟩ := (reads _ q).mp ((rules.readPosition_eq_ok_iff _ q).mp second)
  refine ⟨?_, ?_⟩
  · unfold Move.toRecord
    rw [originText, targetText]
  · intro cell member
    unfold Move.cells at member
    simp only [List.mem_cons, List.not_mem_nil, or_false] at member
    rcases member with rfl | rfl
    · exact origin
    · exact target

theorem mapM_resolve_eq_ok (rules : RuleSet) (shipped : rules.Shipped) (records : List MoveRecord)
    (moves : List Move) (resolved : records.mapM (MoveRecord.resolve rules) = .ok moves) :
    moves.map Move.toRecord = records ∧
      ∀ move ∈ moves, ∀ p ∈ move.cells, p ∈ rules.cells := by
  induction records generalizing moves with
  | nil =>
    cases resolved
    exact ⟨rfl, fun move member => nomatch member⟩
  | cons record rest ih =>
    rw [List.mapM_cons] at resolved
    obtain ⟨move, first, resolved⟩ := bind_eq_ok _ _ _ resolved
    obtain ⟨later, others, resolved⟩ := bind_eq_ok _ _ _ resolved
    cases resolved
    obtain ⟨same, cells⟩ := MoveRecord.resolve_eq_ok rules shipped record move first
    obtain ⟨records, rest⟩ := ih later others
    refine ⟨?_, ?_⟩
    · rw [List.map_cons, same, records]
    · intro other member
      rcases List.mem_cons.mp member with rfl | member
      · exact cells
      · exact rest other member

/-! ## Matches -/

/-- The first failure of a record whose rule set is known: of a piece, or else of a move. -/
def MatchRecord.Fails (rules : RuleSet) (record : MatchRecord) (fault : Error) : Prop :=
  FirstFails (PieceRecord.Fails rules) record.board.pieces fault ∨
    (∀ other, ¬FirstFails (PieceRecord.Fails rules) record.board.pieces other) ∧
      FirstFails (fun _ => MoveRecord.Fails rules) record.moves fault

/-- The pieces stand apart on cells of the board that the match is played on, and its moves lead
from cells of that board to cells of that board. -/
structure Match.Sound (game : Match) : Prop where
  board : game.rules.Hosts game.board
  moves : ∀ move ∈ game.moves, ∀ p ∈ move.cells, p ∈ game.rules.cells

namespace Registry

/-- Every rule set in the registry is one of the two, under any name. -/
def Shipped (registry : Registry) : Prop := ∀ entry ∈ registry.entries, entry.2.Shipped

theorem get?_eq_none_iff (registry : Registry) (name : String) :
    registry.get? name = none ↔ registry.contains name = false := by
  unfold get? contains
  rw [Option.map_eq_none_iff, List.find?_eq_none, List.any_eq_false]

theorem Shipped.of_get? (registry : Registry) (shipped : registry.Shipped) (name : String)
    (rules : RuleSet) (found : registry.get? name = some rules) : rules.Shipped := by
  unfold get? at found
  obtain ⟨entry, first, rfl⟩ := Option.map_eq_some_iff.mp found
  exact shipped entry (List.mem_of_find?_eq_some first)

theorem Shipped.register (registry : Registry) (shipped : registry.Shipped) (name : String)
    (rules : RuleSet) (known : rules.Shipped) : (registry.register name rules).Shipped := by
  intro entry member
  rcases List.mem_cons.mp member with rfl | kept
  · exact known
  · exact shipped entry (List.mem_filter.mp kept).1

theorem shipped_default : Registry.default.Shipped := by
  have nothing : Registry.empty.Shipped := fun entry member => nomatch member
  exact (nothing.register _ _ _ .flat).register _ _ _ .hyper

end Registry

namespace MatchRecord

theorem resolve_eq_error_iff (registry : Registry) (shipped : registry.Shipped)
    (record : MatchRecord) (fault : Error) :
    record.resolve registry = .error fault ↔
      registry.contains record.rules = false ∧ fault = .unknownRuleSet record.rules ∨
        ∃ rules, registry.get? record.rules = some rules ∧ record.Fails rules fault := by
  unfold resolve Registry.get
  rw [← registry.get?_eq_none_iff]
  cases found : registry.get? record.rules with
  | none => simp [error_bind, eq_comm]
  | some rules =>
    have known := shipped.of_get? registry record.rules rules found
    have pieces := resolvePieces_eq_error_iff rules known [] (fun piece member => nomatch member)
      record.board.pieces
    simp only [List.map_nil, List.nil_append] at pieces
    have moves := mapM_eq_error_iff (MoveRecord.resolve rules) (MoveRecord.Fails rules)
      (MoveRecord.resolve_eq_error_iff rules) record.moves
    simp only [ok_bind, reduceCtorEq, false_and, false_or, Option.some.injEq, exists_eq_left']
    unfold Fails
    simp only [← pieces, ← moves, never_error_iff, bind_eq_error_iff]
    constructor
    · rintro (failed | ⟨placed, passed, failed | ⟨moved, _, impossible⟩⟩)
      · exact Or.inl failed
      · exact Or.inr ⟨⟨placed, passed⟩, failed⟩
      · cases impossible
    · rintro (failed | ⟨⟨placed, passed⟩, failed⟩)
      · exact Or.inl failed
      · exact Or.inr ⟨placed, passed, Or.inl failed⟩

theorem resolve_eq_ok (registry : Registry) (shipped : registry.Shipped) (record : MatchRecord)
    (game : Match) (resolved : record.resolve registry = .ok game) :
    registry.get? record.rules = some game.rules ∧ game.board.toRecord = record.board ∧
      game.start = record.start.map Timestamp.instant ∧
      game.moves.map Move.toRecord = record.moves ∧ game.Sound := by
  unfold resolve Registry.get at resolved
  cases found : registry.get? record.rules with
  | none =>
    rw [found] at resolved
    cases resolved
  | some rules =>
    have known := shipped.of_get? registry record.rules rules found
    rw [found, ok_bind] at resolved
    obtain ⟨placed, pieces, resolved⟩ := bind_eq_ok _ _ _ resolved
    obtain ⟨moved, moves, resolved⟩ := bind_eq_ok _ _ _ resolved
    cases resolved
    obtain ⟨records, hosts⟩ := resolvePieces_eq_ok rules known record.board.turn [] placed
      ⟨List.Pairwise.nil, fun piece member => nomatch member⟩ record.board.pieces pieces
    obtain ⟨log, cells⟩ := mapM_resolve_eq_ok rules known record.moves moved moves
    refine ⟨rfl, ?_, rfl, log, hosts, cells⟩
    unfold Board.toRecord
    rw [records]
    rfl

/-- A match that is read is what a record in the text is resolved to. -/
theorem ofJson_eq_ok (registry : Registry) (text : String) (game : Match)
    (read : Match.ofJson registry text = .ok game) :
    ∃ record, Json.readAll MatchRecord.schema.read text = .ok record ∧
      record.resolve registry = .ok game := by
  unfold Match.ofJson at read
  split at read
  · rename_i record parsed
    exact ⟨record, parsed, read⟩
  · cases read

theorem ofSnapshot_eq_ok (registry : Registry) (bytes : List UInt8) (game : Match)
    (read : Match.ofSnapshot registry bytes = .ok game) :
    ∃ record rest, MatchRecord.readSnapshot bytes = .ok (record, rest) ∧
      record.resolve registry = .ok game := by
  unfold Match.ofSnapshot at read
  split at read
  · rename_i record rest parsed
    exact ⟨record, rest, parsed, read⟩
  · cases read

theorem sound_ofJson (registry : Registry) (shipped : registry.Shipped) (text : String)
    (game : Match) (read : Match.ofJson registry text = .ok game) : game.Sound := by
  obtain ⟨record, _, resolved⟩ := ofJson_eq_ok registry text game read
  exact (record.resolve_eq_ok registry shipped game resolved).2.2.2.2

theorem sound_ofSnapshot (registry : Registry) (shipped : registry.Shipped) (bytes : List UInt8)
    (game : Match) (read : Match.ofSnapshot registry bytes = .ok game) : game.Sound := by
  obtain ⟨record, _, _, resolved⟩ := ofSnapshot_eq_ok registry bytes game read
  exact (record.resolve_eq_ok registry shipped game resolved).2.2.2.2

/-- A record is refused if its rule set is not registered, and otherwise with its first failure,
if it has one: the pieces are gone through in order, and after them the moves. A record that is
not refused gives a match of which it is the record. Hence every match that is read from any text
or any octets is sound: its pieces stand apart on cells of its own board, and its moves lead from
such cells to such cells (which these are, `Flat.mem_cells_iff` and `Hyper.mem_cells_iff` say). -/
theorem resolve_restores (registry : Registry) (shipped : registry.Shipped) :
    (∀ record fault, MatchRecord.resolve registry record = .error fault ↔
      registry.contains record.rules = false ∧ fault = .unknownRuleSet record.rules ∨
        ∃ rules, registry.get? record.rules = some rules ∧ record.Fails rules fault) ∧
    (∀ text, (DecodeFault.sharedCell text).message = "two pieces at " ++ text) ∧
    (∀ record game, MatchRecord.resolve registry record = .ok game →
      registry.get? record.rules = some game.rules ∧ game.board.toRecord = record.board ∧
        game.start = record.start.map Timestamp.instant ∧
        game.moves.map Move.toRecord = record.moves) ∧
    (∀ text game, Match.ofJson registry text = .ok game → game.Sound) ∧
    (∀ bytes game, Match.ofSnapshot registry bytes = .ok game → game.Sound) := by
  refine ⟨resolve_eq_error_iff registry shipped, fun _ => rfl, ?_, sound_ofJson registry shipped,
    sound_ofSnapshot registry shipped⟩
  intro record game resolved
  obtain ⟨rules, board, start, moves, _⟩ := record.resolve_eq_ok registry shipped game resolved
  exact ⟨rules, board, start, moves⟩

/-- A piece on a taken cell is reported before a piece and a move whose texts are no cells. -/
theorem resolve_restores_order :
    Registry.default.Shipped ∧
      MatchRecord.resolve .default
        ⟨"Boring2D", ⟨[⟨.king, .white, "e1"⟩, ⟨.queen, .black, "e1"⟩, ⟨.rook, .black, "e9"⟩],
          .white⟩, none, [⟨.king, "e0", "e1", .zero⟩]⟩ =
        .error (.decode (.sharedCell "e1")) := by
  refine ⟨Registry.shipped_default,
    ((resolve_restores .default Registry.shipped_default).1 _ _).mpr (Or.inr ⟨.flat, rfl, ?_⟩)⟩
  refine Or.inl ⟨1, ⟨.queen, .black, "e1"⟩, rfl, ?_, ?_⟩
  · exact .shared ⟨.king, .white, "e1"⟩ (.flat 4 0) (List.mem_singleton.mpr rfl) rfl rfl
  · intro j other earlier before listed fails
    have zero : j = 0 := by omega
    subst zero
    cases listed
    cases fails with
    | unread unknown => cases unknown
    | shared _ _ member _ _ => cases member

end MatchRecord

end GridChess
