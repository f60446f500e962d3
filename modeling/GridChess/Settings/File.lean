import GridChess.Disk
import GridChess.Path
import GridChess.Settings

/-!
# Settings files

Settings are kept in a file of indented JSON. A missing file stands for the defaults. A home
sign at the front of its path is expanded when reading and when writing.
-/

set_option autoImplicit false

namespace GridChess.Settings

inductive FileFault where
  | cannotRead (path : String)
  | malformed (path : String) (fault : Json.Fault)
  | cannotCreate (path : String)
  | cannotWrite (path : String)
  deriving DecidableEq, Repr

def FileFault.message : FileFault → String
  | .cannotRead path => "failed to read " ++ path
  | .malformed path _ => "malformed config " ++ path
  | .cannotCreate path => "failed to create " ++ path
  | .cannotWrite path => "failed to write " ++ path

variable {m : Type → Type} [Monad m]

def load (disk : Disk m) (home : Option String) (path : String) :
    m (Except FileFault Settings) := do
  let path := Path.expandHome home path
  match ← disk.readText path with
  | .error .missing => return .ok default
  | .error .unreadable => return .error (.cannotRead path)
  | .ok text =>
    match ofJson text with
    | .ok settings => return .ok settings
    | .error fault => return .error (.malformed path fault)

/-- Makes the directory that the file is to stand in. -/
def makeParent (disk : Disk m) (path : String) : m (Except FileFault Unit) := do
  match Path.parent? path with
  | none => return .ok ()
  | some parent =>
    if ← disk.makeDirectories parent then return .ok ()
    else return .error (.cannotCreate parent)

def save (disk : Disk m) (home : Option String) (path : String) (settings : Settings) :
    m (Except FileFault Unit) := do
  let path := Path.expandHome home path
  match ← makeParent disk path with
  | .error fault => return .error fault
  | .ok () =>
    if ← disk.writeText path settings.toJson then return .ok ()
    else return .error (.cannotWrite path)

end GridChess.Settings
