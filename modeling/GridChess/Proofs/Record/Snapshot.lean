import GridChess.Proofs.Duration.Text
import GridChess.Proofs.Record.Resolve
import GridChess.Proofs.Snapshot.Delimits
import GridChess.Record.Snapshot

/-!
# Reading matches from snapshots

The snapshot of a record delimits the record, with its start rounded down to the second. Lengths
take 64 bits. This bounds the log only: on a board, the pieces are no more than the cells.
-/

set_option autoImplicit false

namespace GridChess

open Snapshot

/-! ## Texts that have a length -/

/-- The number of octets has 64 bits. -/
def TextFits (text : String) : Prop := (Text.octets text).length < Text.Numeral.wordLimit

theorem textFits_of_length (text : String) (short : text.toList.length ≤ 252) :
    TextFits text := by
  have octets := Text.length_octetsOf_le text.toList
  have limit : 4 * 252 < Text.Numeral.wordLimit := by decide
  exact Nat.lt_of_le_of_lt (Nat.le_trans octets (Nat.mul_le_mul_left 4 short)) limit

theorem Duration.textFits (d : Duration) : TextFits (toString d) := by
  refine textFits_of_length _ ?_
  rw [toList_toString]
  exact length_chars_le d

theorem Timestamp.textFits (t : Timestamp) : TextFits (toString t) := by
  refine textFits_of_length _ ?_
  rw [toList_toString, length_chars]
  decide

theorem textFits_flat (p : Position) (inside : p.onFlatBoard = true) : TextFits (toString p) := by
  refine textFits_of_length _ ?_
  rw [Position.toList_toString]
  cases p with
  | flat file rank =>
    rw [Position.chars_flat file rank inside]
    simp
  | hyper x y z w => cases inside
  | invalid => cases inside

theorem textFits_hyper (p : Position) (inside : p.onHyperBoard = true) :
    TextFits (toString p) := by
  refine textFits_of_length _ ?_
  rw [Position.toList_toString]
  cases p with
  | hyper x y z w =>
    rw [Position.chars_hyper x y z w inside]
    simp
  | flat file rank => cases inside
  | invalid => cases inside

/-- Sizes of what a rule set names, for snapshots. -/
structure RuleSet.Modest (rules : RuleSet) : Prop where
  name : TextFits rules.name
  cells : rules.cells.length < Text.Numeral.wordLimit
  positions : ∀ p ∈ rules.cells, TextFits (toString p)

theorem RuleSet.Shipped.modest (rules : RuleSet) (shipped : rules.Shipped) : rules.Modest := by
  cases shipped with
  | flat =>
    refine ⟨textFits_of_length _ (by decide), by decide, ?_⟩
    intro p member
    exact textFits_flat p ((RuleSet.Flat.mem_cells_iff p).mp member)
  | hyper =>
    refine ⟨textFits_of_length _ (by decide), by decide +kernel, ?_⟩
    intro p member
    exact textFits_hyper p ((RuleSet.Hyper.mem_cells_iff p).mp member)

/-! ## Records -/

theorem Kind.delimits (kind : Kind) :
    Delimits (readVariantItem Kind.all) (variantItem Kind.all kind) kind :=
  delimits_variant Kind.all kind (by cases kind <;> decide) (by decide)

theorem Colour.delimits (colour : Colour) :
    Delimits (readVariantItem Colour.all) (variantItem Colour.all colour) colour :=
  delimits_variant Colour.all colour (by cases colour <;> decide) (by decide)

theorem PieceRecord.readSnapshot_eq :
    PieceRecord.readSnapshot =
      andThen (readVariantItem Kind.all) fun kind =>
        andThen (readVariantItem Colour.all) fun colour =>
          andThen readTextItem fun position => done ⟨kind, colour, position⟩ := rfl

theorem PieceRecord.delimits (record : PieceRecord) (position : TextFits record.position) :
    Delimits PieceRecord.readSnapshot record.snapshot record := by
  unfold PieceRecord.snapshot
  rw [PieceRecord.readSnapshot_eq, List.append_assoc]
  refine delimits_andThen _ _ _ _ _ _ record.kind.delimits ?_
  refine delimits_andThen _ _ _ _ _ _ record.colour.delimits ?_
  exact delimits_last readTextItem _ _ _ record (delimits_text record.position position) rfl

theorem BoardRecord.readSnapshot_eq :
    BoardRecord.readSnapshot =
      andThen (readSequenceItem PieceRecord.readSnapshot) fun pieces =>
        andThen (readVariantItem Colour.all) fun turn => done ⟨pieces, turn⟩ := rfl

theorem BoardRecord.delimits (record : BoardRecord)
    (count : record.pieces.length < Text.Numeral.wordLimit)
    (positions : ∀ piece ∈ record.pieces, TextFits piece.position) :
    Delimits BoardRecord.readSnapshot record.snapshot record := by
  have pieces := delimits_sequence PieceRecord.readSnapshot PieceRecord.snapshot record.pieces
    count fun piece member => piece.delimits (positions piece member)
  unfold BoardRecord.snapshot
  rw [BoardRecord.readSnapshot_eq]
  refine delimits_andThen _ _ _ _ _ _ pieces ?_
  exact delimits_last (readVariantItem Colour.all) _ _ _ record record.turn.delimits rfl

theorem MoveRecord.readSnapshot_eq :
    MoveRecord.readSnapshot =
      andThen (readVariantItem Kind.all) fun kind =>
        andThen readTextItem fun origin =>
          andThen readTextItem fun target =>
            andThen (readParsedItem Duration.read) fun time =>
              done ⟨kind, origin, target, time⟩ := rfl

theorem MoveRecord.delimits (record : MoveRecord) (origin : TextFits record.origin)
    (target : TextFits record.target) :
    Delimits MoveRecord.readSnapshot record.snapshot record := by
  have time := delimits_parsed Duration.read (toString record.time) record.time
    record.time.textFits (Duration.read_toString record.time)
  unfold MoveRecord.snapshot
  rw [MoveRecord.readSnapshot_eq, List.append_assoc, List.append_assoc]
  refine delimits_andThen _ _ _ _ _ _ record.kind.delimits ?_
  refine delimits_andThen _ _ _ _ _ _ (delimits_text record.origin origin) ?_
  refine delimits_andThen _ _ _ _ _ _ (delimits_text record.target target) ?_
  exact delimits_last (readParsedItem Duration.read) _ _ _ record time rfl

theorem Timestamp.delimits_option (start : Option Timestamp) :
    Delimits (readOptionItem (readParsedItem Timestamp.read))
      (optionItem (fun start => textItem (toString start)) start)
      (start.map Timestamp.truncated) := by
  cases start with
  | none => exact delimits_none _
  | some t =>
    exact delimits_some _ _ _
      (delimits_parsed Timestamp.read (toString t) t.truncated t.textFits (read_toString t))

/-- The texts and lists of a record have lengths of 64 bits. -/
structure MatchRecord.Fits (record : MatchRecord) : Prop where
  rules : TextFits record.rules
  pieceCount : record.board.pieces.length < Text.Numeral.wordLimit
  pieces : ∀ piece ∈ record.board.pieces, TextFits piece.position
  moveCount : record.moves.length < Text.Numeral.wordLimit
  moves : ∀ move ∈ record.moves, TextFits move.origin ∧ TextFits move.target

theorem MatchRecord.readSnapshot_eq :
    MatchRecord.readSnapshot =
      andThen readTextItem fun rules =>
        andThen BoardRecord.readSnapshot fun board =>
          andThen (readOptionItem (readParsedItem Timestamp.read)) fun start =>
            andThen (readSequenceItem MoveRecord.readSnapshot) fun moves =>
              done ⟨rules, board, start, moves⟩ := rfl

theorem MatchRecord.delimits (record : MatchRecord) (fits : record.Fits) :
    Delimits MatchRecord.readSnapshot record.snapshot record.truncated := by
  have moves := delimits_sequence MoveRecord.readSnapshot MoveRecord.snapshot record.moves
    fits.moveCount fun move member =>
      move.delimits (fits.moves move member).1 (fits.moves move member).2
  unfold MatchRecord.snapshot
  rw [MatchRecord.readSnapshot_eq, List.append_assoc, List.append_assoc]
  refine delimits_andThen _ _ _ _ _ _ (delimits_text record.rules fits.rules) ?_
  refine delimits_andThen _ _ _ _ _ _ (record.board.delimits fits.pieceCount fits.pieces) ?_
  refine delimits_andThen _ _ _ _ _ _ (Timestamp.delimits_option record.start) ?_
  exact delimits_last (readSequenceItem MoveRecord.readSnapshot) _ _ _ record.truncated moves rfl

/-! ## Matches -/

namespace Match

/-- On a board, no more pieces stand apart than there are cells. -/
theorem length_pieces_le (game : Match) (apart : game.board.Apart)
    (valid : .invalid ∉ game.rules.cells)
    (inside : ∀ p ∈ game.positions, p ∈ game.rules.cells) :
    game.board.pieces.length ≤ game.rules.cells.length := by
  have cells : ∀ piece ∈ game.board.pieces, piece.position ∈ game.rules.cells := by
    intro piece member
    exact inside _ (List.mem_append_left _ (List.mem_map_of_mem member))
  have distinct : (game.board.pieces.map Piece.position).Nodup := by
    refine List.pairwise_map.mpr (apart.imp_of_mem ?_)
    intro a b member _ away same
    have stands : a.position ≠ .invalid := fun none => valid (none ▸ cells a member)
    have shared := Position.sameCell_iff.mpr ⟨same, stands⟩
    rw [away] at shared
    cases shared
  have subset : game.board.pieces.map Piece.position ⊆ game.rules.cells := by
    intro p member
    obtain ⟨piece, stands, rfl⟩ := List.mem_map.mp member
    exact cells piece stands
  rw [← List.length_map Piece.position]
  exact distinct.length_le_of_subset subset

theorem fits_record (game : Match) (modest : game.rules.Modest) (apart : game.board.Apart)
    (valid : .invalid ∉ game.rules.cells)
    (inside : ∀ p ∈ game.positions, p ∈ game.rules.cells)
    (moves : game.moves.length < Text.Numeral.wordLimit) (start : Option Timestamp) :
    (game.record start).Fits where
  rules := modest.name
  pieceCount := by
    have few := game.length_pieces_le apart valid inside
    change (game.board.pieces.map Piece.toRecord).length < Text.Numeral.wordLimit
    rw [List.length_map]
    exact Nat.lt_of_le_of_lt few modest.cells
  pieces := by
    intro record member
    obtain ⟨piece, stands, rfl⟩ := List.mem_map.mp member
    exact modest.positions piece.position
      (inside _ (List.mem_append_left _ (List.mem_map_of_mem stands)))
  moveCount := by
    change (game.moves.map Move.toRecord).length < Text.Numeral.wordLimit
    rwa [List.length_map]
  moves := by
    intro record member
    obtain ⟨move, logged, rfl⟩ := List.mem_map.mp member
    have cells : ∀ p ∈ move.cells, p ∈ game.rules.cells := fun p cell =>
      inside p (List.mem_append_right _ (List.mem_flatMap.mpr ⟨move, logged, cell⟩))
    exact ⟨modest.positions _ (cells move.origin (by simp [Move.cells])),
      modest.positions _ (cells move.target (by simp [Move.cells]))⟩

/-- The snapshot of a record that fits is read in front of anything, and no less than all of it
is read. -/
theorem ofSnapshot_record (registry : Registry) (record : MatchRecord) (fits : record.Fits) :
    (∀ rest, ofSnapshot registry (record.snapshot ++ rest) =
      record.truncated.resolve registry) ∧
    (∀ front, front <+: record.snapshot → front ≠ record.snapshot →
      ofSnapshot registry front = .error (.decode (.snapshot .truncated))) := by
  have delimits := record.delimits fits
  constructor
  · intro rest
    unfold ofSnapshot
    rw [delimits.whole rest]
  · intro front begins shorter
    have taken := List.prefix_iff_eq_take.mp begins
    have less : front.length < record.snapshot.length :=
      Nat.lt_of_le_of_ne begins.length_le fun same => shorter (begins.eq_of_length same)
    unfold ofSnapshot
    rw [taken, delimits.cut front.length less]

theorem toSnapshot_eq_ok (game : Match) (start : Option Timestamp)
    (recorded : game.toRecord = .ok (game.record start)) :
    game.toSnapshot = .ok (game.record start).snapshot := by
  unfold toSnapshot
  rw [recorded]
  rfl

/-- The snapshot of a match on its board is read as the match with its start rounded down to the
second, whatever octets follow it, and a snapshot that has been cut short anywhere is refused.
The log has as many moves as 64 bits can count. -/
theorem snapshot_roundTrip (game : Match) (shipped : game.rules.Shipped)
    (apart : game.board.Apart) (inside : ∀ p ∈ game.positions, p ∈ game.rules.cells)
    (recordable : game.Recordable) (countable : game.moves.length < Text.Numeral.wordLimit) :
    ∃ bytes, game.toSnapshot = .ok bytes ∧
      (∀ rest, ofSnapshot .default (bytes ++ rest) = .ok game.truncated) ∧
      (∀ front, front <+: bytes → front ≠ bytes →
        ofSnapshot .default front = .error (.decode (.snapshot .truncated))) := by
  obtain ⟨start, recorded, same⟩ := game.toRecord_eq_ok recordable
  have fits := game.fits_record (RuleSet.Shipped.modest game.rules shipped) apart
    (RuleSet.Shipped.bounded game.rules shipped).valid_cells inside countable start
  obtain ⟨whole, cut⟩ := ofSnapshot_record .default (game.record start) fits
  have resolved := game.resolve_truncated .default
    (RuleSet.Shipped.registered game.rules shipped)
    (RuleSet.Shipped.readsCells game.rules shipped) apart start same
  rw [game.rules.requireCells_eq_ok game.positions inside, ok_bind] at resolved
  refine ⟨_, game.toSnapshot_eq_ok start recorded, ?_, cut⟩
  intro rest
  rw [whole rest, resolved]

theorem snapshot_roundTrip_king :
    ∃ bytes, toSnapshot ⟨.flat, ⟨[⟨.king, .white, .flat 4 0⟩], .black⟩, some ⟨1500000000⟩,
        [⟨.king, .flat 4 1, .flat 4 0, .zero⟩]⟩ = .ok bytes ∧
      ofSnapshot .default (bytes ++ [7]) =
        .ok ⟨.flat, ⟨[⟨.king, .white, .flat 4 0⟩], .black⟩, some ⟨1000000000⟩,
          [⟨.king, .flat 4 1, .flat 4 0, .zero⟩]⟩ := by
  obtain ⟨bytes, written, whole, _⟩ := snapshot_roundTrip
    ⟨.flat, ⟨[⟨.king, .white, .flat 4 0⟩], .black⟩, some ⟨1500000000⟩,
      [⟨.king, .flat 4 1, .flat 4 0, .zero⟩]⟩ .flat (by decide) (by decide)
    (by
      intro t member
      cases member
      decide)
    (by decide)
  exact ⟨bytes, written, whole [7]⟩

end Match

end GridChess
