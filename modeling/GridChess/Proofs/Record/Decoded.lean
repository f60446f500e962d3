import GridChess.Proofs.Json.Consumed
import GridChess.Proofs.Record.Restore
import GridChess.Proofs.Snapshot.Delimits

/-!
# Matches that have been read

Whatever a match has been read from, it can be stored: it is sound, its rule set is one of the two
boards, its start is a timestamp, and its moves can be counted with 64 bits (`Decoded.storable`).
A text bounds the number of its moves by its length, a snapshot by the count that it starts the
moves with.
-/

set_option autoImplicit false

namespace GridChess

open Json Snapshot

/-! ## The number of moves -/

theorem BoardRecord.readsWithin (limit : Nat) :
    ReadsWithin limit BoardRecord.schema.read fun _ => True := by
  refine readsWithin_schema limit BoardRecord.schema _ trivial ?_
  refine fieldsWithin_cons limit _ "pieces" true _ _ _ _
    (readsWithin_sequence limit PieceRecord.schema.read) (fun _ _ _ _ => trivial) ?_
  exact fieldsWithin_cons limit _ "turn" true _ _ _ _
    (readsWithin_variant limit Colour.name Colour.all) (fun _ _ _ _ => trivial)
    (fieldsWithin_nil limit _)

/-- Only the sequence of the moves changes how many there are. -/
theorem MatchRecord.readsWithin (limit : Nat) :
    ReadsWithin limit MatchRecord.schema.read fun record => record.moves.length ≤ limit := by
  refine readsWithin_schema limit MatchRecord.schema _ (Nat.zero_le limit) ?_
  refine fieldsWithin_cons limit _ "ruleset" true _ _ _ _ (readsWithin_text limit)
    (fun _ _ few _ => few) ?_
  refine fieldsWithin_cons limit _ "board" true _ _ _ _ (BoardRecord.readsWithin limit)
    (fun _ _ few _ => few) ?_
  refine fieldsWithin_cons limit _ "start_time" false _ _ _ _
    (readsWithin_option limit Timestamp.readJson _
      (readsWithin_parsed limit Timestamp.read Timestamp.Fault.message))
    (fun _ _ few _ => few) ?_
  exact fieldsWithin_cons limit _ "moves" true _ _ _ _
    (readsWithin_sequence limit MoveRecord.schema.read) (fun _ _ _ few => few)
    (fieldsWithin_nil limit _)

theorem MatchRecord.length_moves_readAll_le (text : String) (record : MatchRecord)
    (read : readAll MatchRecord.schema.read text = .ok record) :
    record.moves.length ≤ text.length := by
  obtain ⟨⟨value, rest⟩, first, read⟩ := bind_eq_ok _ _ _ read
  have bound := MatchRecord.readsWithin text.length text.toList value rest
    (Nat.le_of_eq text.length_toList) first
  dsimp only at read
  split at read
  · cases read
    exact bound.2
  · cases read

theorem MatchRecord.length_moves_readSnapshot_lt (bytes rest : List UInt8) (record : MatchRecord)
    (read : MatchRecord.readSnapshot bytes = .ok (record, rest)) :
    record.moves.length < Text.Numeral.wordLimit := by
  unfold MatchRecord.readSnapshot at read
  obtain ⟨⟨rules, bytes₁⟩, _, read⟩ := bind_eq_ok _ _ _ read
  obtain ⟨⟨board, bytes₂⟩, _, read⟩ := bind_eq_ok _ _ _ read
  obtain ⟨⟨start, bytes₃⟩, _, read⟩ := bind_eq_ok _ _ _ read
  obtain ⟨⟨moves, left⟩, logged, read⟩ := bind_eq_ok _ _ _ read
  cases read
  exact length_readSequenceItem_lt MoveRecord.readSnapshot bytes₃ rest moves logged

/-! ## Matches -/

namespace Match

/-- The match has been read from a text that a machine can hold, or from octets. -/
inductive Decoded (game : Match) : Prop
  | ofJson (text : String) (held : text.length < Text.Numeral.wordLimit)
      (read : Match.ofJson .default text = .ok game)
  | ofSnapshot (bytes : List UInt8) (read : Match.ofSnapshot .default bytes = .ok game)

/-- Everything in the match has a form in which it is stored. -/
structure Storable (game : Match) : Prop where
  sound : game.Sound
  shipped : game.rules.Shipped
  stamped : ∃ start : Option Timestamp, start.map Timestamp.instant = game.start
  countable : game.moves.length < Text.Numeral.wordLimit

theorem storable_of_resolve (record : MatchRecord) (game : Match)
    (few : record.moves.length < Text.Numeral.wordLimit)
    (resolved : record.resolve .default = .ok game) : game.Storable := by
  obtain ⟨found, _, start, moves, sound⟩ :=
    record.resolve_eq_ok .default Registry.shipped_default game resolved
  refine ⟨sound, Registry.shipped_default.of_get? _ _ _ found, ⟨record.start, start.symm⟩, ?_⟩
  rwa [← moves, List.length_map] at few

/-- What has been read can be stored. -/
theorem Decoded.storable (game : Match) (decoded : game.Decoded) : game.Storable := by
  cases decoded with
  | ofJson text held read =>
    obtain ⟨record, parsed, resolved⟩ := MatchRecord.ofJson_eq_ok .default text game read
    have few := record.length_moves_readAll_le text parsed
    exact storable_of_resolve record game (Nat.lt_of_le_of_lt few held) resolved
  | ofSnapshot bytes read =>
    obtain ⟨record, rest, parsed, resolved⟩ :=
      MatchRecord.ofSnapshot_eq_ok .default bytes game read
    have few := MatchRecord.length_moves_readSnapshot_lt bytes rest record parsed
    exact storable_of_resolve record game few resolved

end Match

end GridChess
