import GridChess.Proofs.Duration.Text
import GridChess.Proofs.Json.Object
import GridChess.Proofs.Record.Resolve
import GridChess.Proofs.Timestamp.Text
import GridChess.Record.Json

/-!
# Reading matches from JSON

Every record is read back from its JSON in either style, except that its start is rounded down
to the second. With the resolution of records this gives the round trip of matches.
-/

set_option autoImplicit false

namespace GridChess

open Json

/-! ## Values of records -/

theorem Kind.reads (kind : Kind) : Reads Kind.read kind.write kind := by
  refine reads_variant Kind.name Kind.all kind ?_ ?_
  · cases kind <;> decide
  · cases kind <;> decide

theorem Colour.reads (colour : Colour) : Reads Colour.read colour.write colour := by
  refine reads_variant Colour.name Colour.all colour ?_ ?_
  · cases colour <;> decide
  · cases colour <;> decide

theorem Duration.reads (d : Duration) : Reads Duration.readJson d.write d :=
  reads_parsed Duration.read Duration.Fault.message (toString d) d (read_toString d)

theorem Timestamp.reads (t : Timestamp) : Reads Timestamp.readJson t.write t.truncated :=
  reads_parsed Timestamp.read Timestamp.Fault.message (toString t) t.truncated (read_toString t)

theorem Timestamp.reads_option (start : Option Timestamp) :
    Reads (readOption Timestamp.readJson) (Writer.option Timestamp.write start)
      (start.map Timestamp.truncated) :=
  Json.reads_option Timestamp.readJson Timestamp.write Timestamp.truncated Timestamp.reads
    (fun t => startsBut_text 'n' (toString t) (by decide)) start

/-! ## Records -/

theorem PieceRecord.reads (record : PieceRecord) :
    Reads PieceRecord.schema.read record.write record :=
  reads_record PieceRecord.schema
    [.of "type" true Kind.read (fun record kind => { record with kind }) record.kind.write
      record.kind record.kind.reads,
     .of "colour" true Colour.read (fun record colour => { record with colour })
      record.colour.write record.colour record.colour.reads,
     .of "position" true readText (fun record position => { record with position })
      (Writer.text record.position) record.position (reads_text record.position)]
    record rfl (by decide) rfl

theorem BoardRecord.reads (record : BoardRecord) :
    Reads BoardRecord.schema.read record.write record :=
  reads_record BoardRecord.schema
    [.of "pieces" true (readSequence PieceRecord.schema.read)
      (fun record pieces => { record with pieces })
      (Writer.sequence (record.pieces.map PieceRecord.write)) record.pieces
      (reads_sequence PieceRecord.schema.read PieceRecord.write record.pieces
        fun piece _ => piece.reads),
     .of "turn" true Colour.read (fun record turn => { record with turn }) record.turn.write
      record.turn record.turn.reads]
    record rfl (by decide) rfl

theorem MoveRecord.reads (record : MoveRecord) :
    Reads MoveRecord.schema.read record.write record :=
  reads_record MoveRecord.schema
    [.of "type" true Kind.read (fun record kind => { record with kind }) record.kind.write
      record.kind record.kind.reads,
     .of "from" true readText (fun record origin => { record with origin })
      (Writer.text record.origin) record.origin (reads_text record.origin),
     .of "to" true readText (fun record target => { record with target })
      (Writer.text record.target) record.target (reads_text record.target),
     .of "time" false Duration.readJson (fun record time => { record with time })
      record.time.write record.time record.time.reads]
    record rfl (by decide) rfl

theorem MatchRecord.reads (record : MatchRecord) :
    Reads MatchRecord.schema.read record.write record.truncated :=
  reads_record MatchRecord.schema
    [.of "ruleset" true readText (fun record rules => { record with rules })
      (Writer.text record.rules) record.rules (reads_text record.rules),
     .of "board" true BoardRecord.schema.read (fun record board => { record with board })
      record.board.write record.board record.board.reads,
     .of "start_time" false (readOption Timestamp.readJson)
      (fun record start => { record with start })
      (Writer.option Timestamp.write record.start) (record.start.map Timestamp.truncated)
      (Timestamp.reads_option record.start),
     .of "moves" true (readSequence MoveRecord.schema.read)
      (fun record moves => { record with moves })
      (Writer.sequence (record.moves.map MoveRecord.write)) record.moves
      (reads_sequence MoveRecord.schema.read MoveRecord.write record.moves
        fun move _ => move.reads)]
    record.truncated rfl (by decide) rfl

/-! ## Matches -/

namespace Match

/-- What is read of a match is the match with its start rounded down, or the refusal of its
first position that is no cell of the board. -/
theorem ofJson_document (game : Match) (registry : Registry)
    (registered : registry.get game.rules.name = .ok game.rules)
    (reads : game.rules.ReadsCells) (apart : game.board.Apart) (start : Option Timestamp)
    (same : start.map Timestamp.instant = game.start) (style : Style) :
    ofJson registry ((game.record start).write.document style) =
      (game.rules.requireCells game.positions >>= fun _ => .ok game.truncated) := by
  have read := readAll_document MatchRecord.schema.read (game.record start).write
    (game.record start).truncated (MatchRecord.reads (game.record start)) style
  unfold ofJson
  rw [read]
  exact game.resolve_truncated registry registered reads apart start same

theorem toJson_eq_ok (game : Match) (start : Option Timestamp)
    (recorded : game.toRecord = .ok (game.record start)) (style : Style) :
    game.toJson style = .ok ((game.record start).write.document style) := by
  unfold toJson
  rw [recorded]
  rfl

/-- JSON never changes a match silently. A match whose start can be recorded is written in both
styles. What was written is read if and only if every position in the match is a cell of its own
board, that is, a position of its own kind within the bounds (`Flat.mem_cells_iff` and
`Hyper.mem_cells_iff`), and it is read as the same match with the start rounded down to the
second. Otherwise the first position that is no cell is named. A start before 1970 is refused
when writing. -/
theorem json_roundTrip (game : Match) (shipped : game.rules.Shipped) (apart : game.board.Apart)
    (style : Style) :
    (game.Recordable → ∃ text, game.toJson style = .ok text ∧
      ((∃ read, ofJson .default text = .ok read) ↔
        ∀ p ∈ game.positions, p ∈ game.rules.cells) ∧
      (∀ read, ofJson .default text = .ok read → read = game.truncated) ∧
      (∀ p, game.positions.find? (· ∉ game.rules.cells) = some p →
        ofJson .default text = .error (.invalidFormat (toString p)))) ∧
    (∀ t, game.start = some t → t.nanoseconds < 0 →
      game.toJson style = .error (.encode .startBeforeEpoch)) := by
  constructor
  · intro recordable
    obtain ⟨start, recorded, same⟩ := game.toRecord_eq_ok recordable
    have read := game.ofJson_document .default (RuleSet.Shipped.registered game.rules shipped)
      (RuleSet.Shipped.readsCells game.rules shipped) apart start same style
    refine ⟨_, game.toJson_eq_ok start recorded style, ?_⟩
    rw [read]
    unfold RuleSet.requireCells
    cases found : game.positions.find? (· ∉ game.rules.cells) with
    | none =>
      have inside : ∀ p ∈ game.positions, p ∈ game.rules.cells := by
        simpa using List.find?_eq_none.mp found
      refine ⟨⟨fun _ => inside, fun _ => ⟨game.truncated, rfl⟩⟩, ?_, ?_⟩
      · intro other same
        exact (Except.ok.inj same).symm
      · intro p some
        cases some
    | some p =>
      have outside : p ∉ game.rules.cells := by
        simpa using List.find?_some found
      have member := List.mem_of_find?_eq_some found
      refine ⟨⟨?_, fun inside => absurd (inside p member) outside⟩, ?_, ?_⟩
      · rintro ⟨other, same⟩
        cases same
      · intro other same
        cases same
      · intro other same
        cases same
        rfl
  · intro t start early
    unfold toJson
    rw [game.toRecord_beforeEpoch t start early]
    rfl

/-- A rook of the hyper-board on the flat board is refused by name. -/
theorem json_roundTrip_foreign :
    ∃ text, toJson .indented ⟨.flat,
        ⟨[⟨.king, .white, .flat 4 0⟩, ⟨.rook, .black, .hyper 0 0 0 0⟩], .white⟩,
        some ⟨1500000000⟩, []⟩ = .ok text ∧
      ofJson .default text = .error (.invalidFormat "a1m1") := by
  obtain ⟨text, written, _, _, refused⟩ := (json_roundTrip ⟨.flat,
    ⟨[⟨.king, .white, .flat 4 0⟩, ⟨.rook, .black, .hyper 0 0 0 0⟩], .white⟩,
    some ⟨1500000000⟩, []⟩ .flat (by decide) .indented).1 (by
      intro t member
      cases member
      decide)
  exact ⟨text, written, refused (.hyper 0 0 0 0) (by decide)⟩

end Match

end GridChess
