import GridChess.Duration.Text
import GridChess.Kind
import GridChess.Position.Text

/-!
# Moves

A move takes the piece on one cell to another cell. Its kind is informational and its time is
counted from the start of the match. The text of a move shows the time rounded down to tenths
of a second, or to seconds once more than 45 of them have passed.
-/

set_option autoImplicit false

namespace GridChess

structure Move where
  kind : Kind
  origin : Position
  target : Position
  time : Duration
  deriving DecidableEq, Repr

namespace Move

/-- The step, in milliseconds, that shown times are rounded down to. -/
def shownStep (time : Duration) : Nat := if 45 < time.seconds then 1000 else 100

/-- The time as shown. Its milliseconds are kept in 64 bits. -/
def shownTime (time : Duration) : Duration :=
  let step := shownStep time
  Duration.ofMilliseconds (UInt64.ofNat (time.milliseconds / step * step))

def chars (move : Move) : List Char :=
  let path := move.kind.blackGlyph :: ' ' :: move.origin.chars ++ ' ' :: move.target.chars
  if move.time = Duration.zero then path
  else path ++ "  +".toList ++ (shownTime move.time).chars

instance : ToString Move := ⟨fun move => String.ofList move.chars⟩

end Move

end GridChess
