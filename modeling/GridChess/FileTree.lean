import GridChess.Disk
import GridChess.Path
import GridChess.Text.Octets

/-!
# File trees

A file system as a value: directories and files with their octets, by location. A location is
reached from the root or from the current directory name by name, and everything on the way has
to be a directory. A disk of file trees keeps one as its state.
-/

set_option autoImplicit false

namespace GridChess

/-- Names from a place up to the root, which is the empty location. -/
abbrev Location := List (List Char)

inductive Entry where
  | directory
  | file (content : List UInt8)
  deriving DecidableEq, Repr

structure FileTree where
  current : Location
  /-- Every location at most once; the root is left out. -/
  entries : List (Location × Entry)
  deriving DecidableEq, Repr

namespace FileTree

inductive Failure where
  | missing
  | notDirectory
  | isDirectory
  /-- There is something already. -/
  | taken
  | badName
  deriving DecidableEq, Repr

/-- The longest name, in octets. -/
def longestName : Nat := 255

/-- The longest path, in octets. -/
def longestPath : Nat := 4095

def get? (tree : FileTree) (location : Location) : Option Entry :=
  if location = [] then some .directory
  else (tree.entries.find? (·.1 = location)).map (·.2)

def put (tree : FileTree) (location : Location) (entry : Entry) : FileTree :=
  { tree with
    entries := (location, entry) :: tree.entries.filter (·.1 ≠ location) }

/-- The location that a name leads to from a directory. -/
def Location.child (location : Location) (name : List Char) : Location :=
  if name = ['.'] then location
  else if name = ['.', '.'] then location.tail
  else name :: location

/-- Follows a name from a location, which has to be a directory. -/
def enter (tree : FileTree) (location : Location) (name : List Char) :
    Except Failure Location :=
  match tree.get? location with
  | none => .error .missing
  | some (.file _) => .error .notDirectory
  | some .directory =>
    if longestName < (Text.octetsOf name).length then .error .badName
    else .ok (Location.child location name)

def namesIn (path : List Char) : List (List Char) := (Path.names path).filter (· ≠ [])

/-- The names to follow. A slash at the end asks for a directory. -/
def route (path : List Char) : List (List Char) :=
  namesIn path ++ if path.getLast? = some '/' then [['.']] else []

def origin (tree : FileTree) (path : List Char) : Location :=
  if path.head? = some '/' then [] else tree.current

/-- Follows names from where a path starts. The last one need not lead to anything. -/
def follow (tree : FileTree) (path : List Char) (names : List (List Char)) :
    Except Failure Location :=
  if path = [] then .error .missing
  else if path.contains '\x00' ∨ longestPath < (Text.octetsOf path).length then .error .badName
  else names.foldlM tree.enter (tree.origin path)

/-- The location that a path leads to. -/
def locate (tree : FileTree) (path : String) : Except Failure Location :=
  tree.follow path.toList (route path.toList)

def read (tree : FileTree) (path : String) : Except Failure (List UInt8) := do
  match tree.get? (← tree.locate path) with
  | none => throw .missing
  | some .directory => throw .isDirectory
  | some (.file content) => return content

def write (tree : FileTree) (path : String) (content : List UInt8) :
    Except Failure FileTree := do
  let location ← tree.locate path
  match tree.get? location with
  | some .directory => throw .isDirectory
  | _ => return tree.put location (.file content)

/-- Makes a directory where there is nothing. -/
def makeDirectory (tree : FileTree) (path : String) : Except Failure FileTree := do
  let location ← tree.follow path.toList (namesIn path.toList)
  match tree.get? location with
  | some _ => throw .taken
  | none => return tree.put location .directory

def isDirectory (tree : FileTree) (path : String) : Bool :=
  match tree.locate path with
  | .ok location => tree.get? location = some .directory
  | .error _ => false

/-- Reads a file as a text, which has to be UTF-8. -/
def readText (tree : FileTree) (path : String) : Except ReadFailure String :=
  match tree.read path with
  | .ok content =>
    match Text.ofOctets? content with
    | some text => .ok text
    | none => .error .unreadable
  | .error .missing => .error .missing
  | .error _ => .error .unreadable

/-- A disk whose state is a file tree. Failing calls leave it as it is. -/
def disk : Disk (StateM FileTree) where
  readText path := do return (← get).readText path
  makeDirectory path := do
    match (← get).makeDirectory path with
    | .ok tree => set tree; return .ok ()
    | .error .missing => return .error .missing
    | .error .taken => return .error .taken
    | .error _ => return .error .refused
  isDirectory path := do return (← get).isDirectory path
  writeText path text := do
    match (← get).write path (Text.octets text) with
    | .ok tree => set tree; return true
    | .error _ => return false

end FileTree

end GridChess
