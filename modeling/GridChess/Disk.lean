import GridChess.Path

/-!
# Disks

The calls on files that programs of this library make, in whatever monad a disk lives in.
-/

set_option autoImplicit false

namespace GridChess

inductive ReadFailure where
  /-- There is no such file. -/
  | missing
  | unreadable
  deriving DecidableEq, Repr

inductive MakeFailure where
  /-- The directory around it is missing. -/
  | missing
  /-- There is something already. -/
  | taken
  | refused
  deriving DecidableEq, Repr

structure Disk (m : Type → Type) where
  readText : String → m (Except ReadFailure String)
  /-- Makes one directory. -/
  makeDirectory : String → m (Except MakeFailure Unit)
  isDirectory : String → m Bool
  /-- Replaces or makes a file; tells whether it could. -/
  writeText : String → String → m Bool

namespace Disk

variable {m : Type → Type} [Monad m]

/-- Makes a directory unless there is one. Tells whether it is there then, or nothing if the
directory around it is missing. -/
def provide? (disk : Disk m) (path : String) : m (Option Bool) := do
  match ← disk.makeDirectory path with
  | .ok () => return some true
  | .error .taken => return some (← disk.isDirectory path)
  | .error .refused => return some false
  | .error .missing => return none

/-- Provides the first of some directories, of which each stands in the next. The ones around it
are only tried where one is missing. -/
def provideNested (disk : Disk m) : List String → m Bool
  | [] => return true
  | path :: outer => do
    match ← disk.provide? path with
    | some found => return found
    | none =>
      if ← disk.provideNested outer then return (← disk.provide? path).getD false
      else return false

/-- Makes a directory and those around it; tells whether it is there then. Where that fails,
some of those around it may have been made. -/
def makeDirectories (disk : Disk m) (path : String) : m Bool :=
  disk.provideNested (Path.withParents path)

end Disk

end GridChess
