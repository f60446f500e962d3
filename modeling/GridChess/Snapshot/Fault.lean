/-!
# Faults of snapshots

Why octets are no snapshot of a match.
-/

set_option autoImplicit false

namespace GridChess.Snapshot

inductive Fault where
  /-- The octets end before the value does. -/
  | truncated
  | badVarint
  | badText
  | badOption
  /-- A well-formed item that names nothing known. -/
  | badItem
  deriving DecidableEq, Repr

def Fault.message : Fault → String
  | .truncated => "Hit the end of buffer, expected more data"
  | .badVarint => "Found a varint that didn't terminate. Is the usize too big for this platform?"
  | .badText => "Tried to parse invalid utf-8"
  | .badOption => "Found an Option discriminant that wasn't 0 or 1"
  | .badItem => "Serde Deserialization Error"

end GridChess.Snapshot
