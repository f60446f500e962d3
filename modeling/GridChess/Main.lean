import GridChess.Tool.Run
import Std.Time.DateTime.Timestamp

/-!
# Command line

Runs the dump tool on the files, the clock and the random numbers of the machine.
-/

set_option autoImplicit false

namespace GridChess.Main

def succeeds (action : IO Unit) : IO Bool := do
  try
    action
    return true
  catch _ => return false

def readText (path : String) : IO (Except ReadFailure String) := do
  try
    return .ok (← IO.FS.readFile path)
  catch
    | .noFileOrDirectory .. => return .error .missing
    | _ => return .error .unreadable

def makeDirectory (path : String) : IO (Except MakeFailure Unit) := do
  try
    IO.FS.createDir path
    return .ok ()
  catch
    | .noFileOrDirectory .. => return .error .missing
    | .alreadyExists .. => return .error .taken
    | _ => return .error .refused

/-- Only a directory can be entered. -/
def isDirectory (path : String) : IO Bool := do
  let inside : String := path ++ "/."
  succeeds (discard (IO.FS.realPath inside))

def disk : Disk IO where
  readText := readText
  makeDirectory := makeDirectory
  isDirectory := isDirectory
  writeText path text := succeeds (IO.FS.writeFile path text)

def environment : IO Tool.Environment := do
  let now ← Std.Time.Timestamp.now
  return ⟨← IO.getEnv "HOME", ⟨now.toNanosecondsSinceUnixEpoch.val⟩⟩

/-- Spreads every bit of a word over all of its bits. -/
def mixed (word : UInt64) : UInt64 :=
  let a := (word ^^^ (word >>> 30)) * 0xBF58476D1CE4E5B9
  let b := (a ^^^ (a >>> 27)) * 0x94D049BB133111EB
  b ^^^ (b >>> 31)

/-- The numbers of a seed. What the machine gives takes the place of a seed that is not set. -/
def picks : IO Tool.Picks := do
  let bytes ← IO.getRandomBytes 8
  let entropy := bytes.foldl (fun word byte => 256 * word + byte.toUInt64) 0
  return fun seed index =>
    (mixed (seed.getD entropy + 0x9E3779B97F4A7C15 * UInt64.ofNat (index + 1))).toNat

def usage : String :=
  "usage: [-c CONFIG] [-r RULE-SET] [-p PLIES] [-s SEED] [-o OUTPUT] [--save-config]"

end GridChess.Main

open GridChess in
def main (arguments : List String) : IO UInt32 := do
  let outcome ← Tool.run Main.disk (← Main.picks) (← Main.environment) arguments
  IO.print outcome.output
  match outcome.ending with
  | .done => pure ()
  | .misused => IO.eprintln Main.usage
  | .failed fault => IO.eprintln ("Error: " ++ fault.message)
  | .crashed => IO.eprintln "overflow when adding durations"
  return UInt32.ofNat outcome.ending.code
