import GridChess.Proofs.Record.Decoded
import GridChess.Proofs.Record.Json
import GridChess.Proofs.Record.Snapshot

/-!
# Canonical forms of matches

Readers accept more than is ever written: spaces, members in any order, durations in any units,
starts within a second, octets after a snapshot. Writing what has been read is canonical: all of
its written forms are read as the same match, whose start has been rounded down to the second, and
that match is written in the same forms again. Rounding loses nothing that is written, because the
text of a timestamp has whole seconds only.
-/

set_option autoImplicit false

namespace GridChess

/-! ## Rounding leaves what is written -/

theorem Timestamp.toString_truncated (t : Timestamp) : toString t.truncated = toString t := by
  have seconds : t.truncated.nanoseconds / nanosecondsPerSecond =
      t.nanoseconds / nanosecondsPerSecond :=
    Nat.mul_div_cancel _ (by decide)
  change String.ofList t.truncated.chars = String.ofList t.chars
  unfold chars
  rw [seconds]

theorem MatchRecord.write_truncated (record : MatchRecord) :
    record.truncated.write = record.write := by
  unfold write truncated Timestamp.write
  cases record.start with
  | none => rfl
  | some t =>
    simp only [Option.map_some, Json.Writer.option, Timestamp.toString_truncated]

theorem MatchRecord.snapshot_truncated (record : MatchRecord) :
    record.truncated.snapshot = record.snapshot := by
  unfold snapshot truncated
  cases record.start with
  | none => rfl
  | some t =>
    simp only [Option.map_some, Snapshot.optionItem, Timestamp.toString_truncated]

namespace Match

/-! ## Matches that can be stored -/

theorem Sound.inside (game : Match) (sound : game.Sound) :
    ∀ p ∈ game.positions, p ∈ game.rules.cells := by
  intro p member
  rcases List.mem_append.mp member with stands | logged
  · obtain ⟨piece, placed, rfl⟩ := List.mem_map.mp stands
    exact sound.board.inside piece placed
  · obtain ⟨move, listed, cell⟩ := List.mem_flatMap.mp logged
    exact sound.moves move listed p cell

/-- The record of the rounded match is the rounded record. -/
theorem toRecord_truncated (game : Match) (start : Option Timestamp)
    (same : start.map Timestamp.instant = game.start) :
    game.truncated.toRecord = .ok (game.record start).truncated :=
  game.truncated.toRecord_of_stamp _ (game.stamp_truncated start same)

/-- A sound match whose start has a timestamp is written as JSON and read back. -/
theorem Sound.json (game : Match) (sound : game.Sound) (shipped : game.rules.Shipped)
    (start : Option Timestamp) (same : start.map Timestamp.instant = game.start)
    (style : Json.Style) :
    ∃ text, game.toJson style = .ok text ∧ ofJson .default text = .ok game.truncated ∧
      game.truncated.toJson style = .ok text := by
  have written := game.toJson_eq_ok start (game.toRecord_of_stamp start same) style
  have again := game.truncated.toJson_eq_ok _ (game.toRecord_truncated start same) style
  have read := game.ofJson_document .default (RuleSet.Shipped.registered game.rules shipped)
    (RuleSet.Shipped.readsCells game.rules shipped) sound.board.apart start same style
  rw [game.rules.requireCells_eq_ok game.positions (sound.inside game), ok_bind] at read
  refine ⟨_, written, read, ?_⟩
  rw [again]
  exact congrArg (fun write => Except.ok (write.document style))
    (game.record start).write_truncated

theorem Storable.json (game : Match) (storable : game.Storable) (style : Json.Style) :
    ∃ text, game.toJson style = .ok text ∧ ofJson .default text = .ok game.truncated ∧
      game.truncated.toJson style = .ok text := by
  obtain ⟨start, same⟩ := storable.stamped
  exact storable.sound.json game storable.shipped start same style

theorem Storable.snapshot (game : Match) (storable : game.Storable) :
    ∃ bytes, game.toSnapshot = .ok bytes ∧ ofSnapshot .default bytes = .ok game.truncated ∧
      game.truncated.toSnapshot = .ok bytes := by
  obtain ⟨start, same⟩ := storable.stamped
  have inside := storable.sound.inside game
  have apart := storable.sound.board.apart
  have written := game.toSnapshot_eq_ok start (game.toRecord_of_stamp start same)
  have again := game.truncated.toSnapshot_eq_ok _ (game.toRecord_truncated start same)
  have fits := game.fits_record (RuleSet.Shipped.modest game.rules storable.shipped) apart
    (RuleSet.Shipped.bounded game.rules storable.shipped).valid_cells inside storable.countable
    start
  have read := (ofSnapshot_record .default (game.record start) fits).1 []
  rw [List.append_nil, game.resolve_truncated .default
    (RuleSet.Shipped.registered game.rules storable.shipped)
    (RuleSet.Shipped.readsCells game.rules storable.shipped) apart start same,
    game.rules.requireCells_eq_ok game.positions inside, ok_bind] at read
  refine ⟨_, written, read, ?_⟩
  rw [again]
  exact congrArg Except.ok (game.record start).snapshot_truncated

/-- Whatever a match has been read from, it is written in every form. All of the forms are read
as that match with its start rounded down to the second, and this match is written in the same
forms again. -/
theorem decoded_rewrites (game : Match) (decoded : game.Decoded) :
    ∃ compact indented bytes,
      (game.toJson .compact = .ok compact ∧ game.toJson .indented = .ok indented ∧
        game.toSnapshot = .ok bytes) ∧
      (ofJson .default compact = .ok game.truncated ∧
        ofJson .default indented = .ok game.truncated ∧
        ofSnapshot .default bytes = .ok game.truncated) ∧
      (game.truncated.toJson .compact = .ok compact ∧
        game.truncated.toJson .indented = .ok indented ∧
        game.truncated.toSnapshot = .ok bytes) := by
  have storable := decoded.storable
  obtain ⟨compact, compacted, readCompact, compactAgain⟩ := storable.json game .compact
  obtain ⟨indented, laidOut, readIndented, indentedAgain⟩ := storable.json game .indented
  obtain ⟨bytes, packed, readBytes, bytesAgain⟩ := storable.snapshot game
  exact ⟨compact, indented, bytes, ⟨compacted, laidOut, packed⟩,
    ⟨readCompact, readIndented, readBytes⟩, ⟨compactAgain, indentedAgain, bytesAgain⟩⟩

/-- A pawn that has stepped to e1 within 150 seconds, in a match with this start. -/
def pawnStep (start : Instant) : Match where
  rules := .flat
  board := ⟨[⟨.pawn, .white, .flat 4 0⟩], .black⟩
  start := some start
  moves := [⟨.pawn, .flat 4 1, .flat 4 0, ⟨150000000000, by decide⟩⟩]

/-- One number takes more octets than it needs, the start lies within a second, the units of the
duration are out of order, and octets follow the end. -/
def looseSnapshot : List UInt8 :=
  8 :: Text.octets "Boring2D" ++ [129, 0, 5, 1, 2] ++ Text.octets "e1" ++ [0, 1, 23] ++
    Text.octets "2021-03-04 05:06:07.25Z" ++ [1, 5, 2] ++ Text.octets "e2" ++ 2 ::
    Text.octets "e1" ++ 6 :: Text.octets "90s 1m" ++ [9, 9]

set_option maxRecDepth 2000 in
theorem decoded_rewrites_loose :
    ofSnapshot .default looseSnapshot = .ok (pawnStep ⟨1614834367250000000⟩) ∧
      ∃ text bytes, (pawnStep ⟨1614834367250000000⟩).toJson .compact = .ok text ∧
        ofJson .default text = .ok (pawnStep ⟨1614834367000000000⟩) ∧
        (pawnStep ⟨1614834367000000000⟩).toSnapshot = .ok bytes ∧
        ofSnapshot .default bytes = .ok (pawnStep ⟨1614834367000000000⟩) := by
  have packed : ofSnapshot .default looseSnapshot = .ok (pawnStep ⟨1614834367250000000⟩) := rfl
  obtain ⟨text, _, bytes, ⟨compact, _, _⟩, ⟨readText, _, readBytes⟩, _, _, again⟩ :=
    decoded_rewrites _ (.ofSnapshot looseSnapshot packed)
  exact ⟨packed, text, bytes, compact, readText, again, readBytes⟩

end Match

end GridChess
