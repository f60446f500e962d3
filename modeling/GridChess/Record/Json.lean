import GridChess.Json.Schema
import GridChess.Json.Writer
import GridChess.Record

/-!
# Matches as JSON

The form in which matches are exchanged: an object for every record, with the text of each cell,
duration and timestamp. The start and the times of moves may be left out when reading.
-/

set_option autoImplicit false

namespace GridChess

open Json

def Kind.write (kind : Kind) : Writer := Writer.text kind.name

def Kind.read : Reader Kind := readVariant Kind.name Kind.all

def Colour.write (colour : Colour) : Writer := Writer.text colour.name

def Colour.read : Reader Colour := readVariant Colour.name Colour.all

def Duration.write (d : Duration) : Writer := Writer.text (toString d)

def Duration.readJson : Reader Duration := readParsed Duration.read Duration.Fault.message

def Timestamp.write (t : Timestamp) : Writer := Writer.text (toString t)

def Timestamp.readJson : Reader Timestamp := readParsed Timestamp.read Timestamp.Fault.message

namespace PieceRecord

def write (record : PieceRecord) : Writer :=
  Writer.object
    [("type", record.kind.write),
     ("colour", record.colour.write),
     ("position", Writer.text record.position)]

def schema : Schema PieceRecord where
  name := "PieceRecord"
  blank := ⟨.king, .black, ""⟩
  fields :=
    [.of "type" true Kind.read fun record kind => { record with kind },
     .of "colour" true Colour.read fun record colour => { record with colour },
     .of "position" true readText fun record position => { record with position }]

end PieceRecord

namespace BoardRecord

def write (record : BoardRecord) : Writer :=
  Writer.object
    [("pieces", Writer.sequence (record.pieces.map PieceRecord.write)),
     ("turn", record.turn.write)]

def schema : Schema BoardRecord where
  name := "BoardRecord"
  blank := ⟨[], .black⟩
  fields :=
    [.of "pieces" true (readSequence PieceRecord.schema.read) fun record pieces =>
      { record with pieces },
     .of "turn" true Colour.read fun record turn => { record with turn }]

end BoardRecord

namespace MoveRecord

def write (record : MoveRecord) : Writer :=
  Writer.object
    [("type", record.kind.write),
     ("from", Writer.text record.origin),
     ("to", Writer.text record.target),
     ("time", record.time.write)]

def schema : Schema MoveRecord where
  name := "MoveRecord"
  blank := ⟨.king, "", "", .zero⟩
  fields :=
    [.of "type" true Kind.read fun record kind => { record with kind },
     .of "from" true readText fun record origin => { record with origin },
     .of "to" true readText fun record target => { record with target },
     .of "time" false Duration.readJson fun record time => { record with time }]

end MoveRecord

namespace MatchRecord

def write (record : MatchRecord) : Writer :=
  Writer.object
    [("ruleset", Writer.text record.rules),
     ("board", record.board.write),
     ("start_time", Writer.option Timestamp.write record.start),
     ("moves", Writer.sequence (record.moves.map MoveRecord.write))]

def schema : Schema MatchRecord where
  name := "MatchRecord"
  blank := ⟨"", BoardRecord.schema.blank, none, []⟩
  fields :=
    [.of "ruleset" true readText fun record rules => { record with rules },
     .of "board" true BoardRecord.schema.read fun record board => { record with board },
     .of "start_time" false (readOption Timestamp.readJson) fun record start =>
      { record with start },
     .of "moves" true (readSequence MoveRecord.schema.read) fun record moves =>
      { record with moves }]

end MatchRecord

namespace Match

def toJson (style : Style) (game : Match) : Except Error String := do
  return (← game.toRecord).write.document style

def ofJson (registry : Registry) (text : String) : Except Error Match :=
  match readAll MatchRecord.schema.read text with
  | .ok record => record.resolve registry
  | .error fault => .error (.decode (.json fault))

end Match

end GridChess
