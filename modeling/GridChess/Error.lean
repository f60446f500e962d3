import GridChess.Move
import GridChess.Json.Fault
import GridChess.Snapshot.Fault

/-!
# Errors

Why a position, a move, or a stored match is refused.
-/

set_option autoImplicit false

namespace GridChess

/-- Why a stored match cannot be read. -/
inductive DecodeFault where
  | json (fault : Json.Fault)
  | snapshot (fault : Snapshot.Fault)
  /-- Two pieces stand on the cell with this text. -/
  | sharedCell (text : String)
  deriving DecidableEq, Repr

/-- Why a match cannot be stored: its start has no timestamp. -/
inductive EncodeFault where
  | startBeforeEpoch
  | startAfterLastYear
  deriving DecidableEq, Repr

inductive Error where
  | invalidFormat (text : String)
  | illegalMove (origin target : Position)
  | unknownRuleSet (name : String)
  | decode (fault : DecodeFault)
  | encode (fault : EncodeFault)
  deriving DecidableEq, Repr

def DecodeFault.message : DecodeFault → String
  | .json fault => fault.message
  | .snapshot fault => fault.message
  | .sharedCell text => "two pieces at " ++ text

/-- The start itself is left out. -/
def EncodeFault.message : EncodeFault → String
  | .startBeforeEpoch => "start time <time> predates 1970"
  | .startAfterLastYear => "start time <time> is after the year 9999"

def Error.message : Error → String
  | .invalidFormat text => "error parsing grid position '" ++ text ++ "'"
  | .illegalMove origin target => s!"illegal move: {origin} {target}"
  | .unknownRuleSet name => "unknown rule set '" ++ name ++ "'"
  | .decode fault => "error decoding match: " ++ fault.message
  | .encode fault => "error encoding match: " ++ fault.message

end GridChess
