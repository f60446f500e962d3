import GridChess.Match
import GridChess.Registry

/-!
# Records

The form in which matches are stored: cells by their texts, the rule set by its name, and the
start as a timestamp. Every record can be written. Resolving one against a registry gives a
match whose pieces stand on different cells, or the first fault in the order rule set, pieces,
moves.
-/

set_option autoImplicit false

namespace GridChess

structure PieceRecord where
  kind : Kind
  colour : Colour
  position : String
  deriving DecidableEq, Repr

structure BoardRecord where
  pieces : List PieceRecord
  turn : Colour
  deriving DecidableEq, Repr

structure MoveRecord where
  kind : Kind
  origin : String
  target : String
  time : Duration
  deriving DecidableEq, Repr

structure MatchRecord where
  rules : String
  board : BoardRecord
  start : Option Timestamp
  moves : List MoveRecord
  deriving DecidableEq, Repr

def Piece.toRecord (piece : Piece) : PieceRecord :=
  ⟨piece.kind, piece.colour, toString piece.position⟩

def Board.toRecord (board : Board) : BoardRecord :=
  ⟨board.pieces.map Piece.toRecord, board.turn⟩

def Move.toRecord (move : Move) : MoveRecord :=
  ⟨move.kind, toString move.origin, toString move.target, move.time⟩

/-- The timestamp of a start, which must lie between 1970 and the year 9999. -/
def Instant.toTimestamp (t : Instant) : Except EncodeFault Timestamp :=
  if t.isBeforeEpoch then .error .startBeforeEpoch
  else match Timestamp.ofInstant? t with
    | some stamp => .ok stamp
    | none => .error .startAfterLastYear

def Match.startRecord (game : Match) : Except Error (Option Timestamp) :=
  match game.start.mapM Instant.toTimestamp with
  | .ok start => .ok start
  | .error fault => .error (.encode fault)

def Match.toRecord (game : Match) : Except Error MatchRecord := do
  let start ← game.startRecord
  return ⟨game.rules.name, game.board.toRecord, start, game.moves.map Move.toRecord⟩

/-- Reads the position of a piece, which must not be one of the cells already taken. -/
def PieceRecord.resolve (rules : RuleSet) (placed : List Piece) (record : PieceRecord) :
    Except Error Piece := do
  let position ← rules.readPosition record.position
  if placed.any (·.position.sameCell position) then
    throw (.decode (.sharedCell record.position))
  return ⟨record.kind, record.colour, position⟩

/-- Resolves pieces in order, after those already placed. -/
def resolvePieces (rules : RuleSet) (placed : List Piece) :
    List PieceRecord → Except Error (List Piece)
  | [] => .ok placed
  | record :: rest => do
    let piece ← record.resolve rules placed
    resolvePieces rules (placed ++ [piece]) rest

def MoveRecord.resolve (rules : RuleSet) (record : MoveRecord) : Except Error Move := do
  let origin ← rules.readPosition record.origin
  let target ← rules.readPosition record.target
  return ⟨record.kind, origin, target, record.time⟩

def MatchRecord.resolve (registry : Registry) (record : MatchRecord) : Except Error Match := do
  let rules ← registry.get record.rules
  let pieces ← resolvePieces rules [] record.board.pieces
  let moves ← record.moves.mapM (MoveRecord.resolve rules)
  return ⟨rules, ⟨pieces, record.board.turn⟩, record.start.map Timestamp.instant, moves⟩

end GridChess
