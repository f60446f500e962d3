import GridChess.Record
import GridChess.Snapshot.Item

/-!
# Snapshots of matches

The compact stored form of a match: the fields of its record one after the other, without names.
A snapshot ends by itself, and octets after it are ignored.
-/

set_option autoImplicit false

namespace GridChess

open Snapshot

def PieceRecord.snapshot (record : PieceRecord) : List UInt8 :=
  variantItem Kind.all record.kind ++ variantItem Colour.all record.colour ++
    textItem record.position

def PieceRecord.readSnapshot : Reader PieceRecord := fun bytes => do
  let (kind, bytes) ← readVariantItem Kind.all bytes
  let (colour, bytes) ← readVariantItem Colour.all bytes
  let (position, bytes) ← readTextItem bytes
  return (⟨kind, colour, position⟩, bytes)

def BoardRecord.snapshot (record : BoardRecord) : List UInt8 :=
  sequenceItem PieceRecord.snapshot record.pieces ++ variantItem Colour.all record.turn

def BoardRecord.readSnapshot : Reader BoardRecord := fun bytes => do
  let (pieces, bytes) ← readSequenceItem PieceRecord.readSnapshot bytes
  let (turn, bytes) ← readVariantItem Colour.all bytes
  return (⟨pieces, turn⟩, bytes)

def MoveRecord.snapshot (record : MoveRecord) : List UInt8 :=
  variantItem Kind.all record.kind ++ textItem record.origin ++ textItem record.target ++
    textItem (toString record.time)

def MoveRecord.readSnapshot : Reader MoveRecord := fun bytes => do
  let (kind, bytes) ← readVariantItem Kind.all bytes
  let (origin, bytes) ← readTextItem bytes
  let (target, bytes) ← readTextItem bytes
  let (time, bytes) ← readParsedItem Duration.read bytes
  return (⟨kind, origin, target, time⟩, bytes)

def MatchRecord.snapshot (record : MatchRecord) : List UInt8 :=
  textItem record.rules ++ record.board.snapshot ++
    optionItem (fun start => textItem (toString start)) record.start ++
    sequenceItem MoveRecord.snapshot record.moves

def MatchRecord.readSnapshot : Reader MatchRecord := fun bytes => do
  let (rules, bytes) ← readTextItem bytes
  let (board, bytes) ← BoardRecord.readSnapshot bytes
  let (start, bytes) ← readOptionItem (readParsedItem Timestamp.read) bytes
  let (moves, bytes) ← readSequenceItem MoveRecord.readSnapshot bytes
  return (⟨rules, board, start, moves⟩, bytes)

namespace Match

def toSnapshot (game : Match) : Except Error (List UInt8) := do
  return (← game.toRecord).snapshot

def ofSnapshot (registry : Registry) (bytes : List UInt8) : Except Error Match :=
  match MatchRecord.readSnapshot bytes with
  | .ok (record, _) => record.resolve registry
  | .error fault => .error (.decode (.snapshot fault))

end Match

end GridChess
