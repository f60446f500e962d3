import GridChess.Json.Number
import GridChess.Json.Text

/-!
# JSON readers

A reader takes a value of one shape from the front of a text and hands back the rest. Texts are
read once from left to right, so the first problem met decides, whether the text is not JSON or
JSON of another shape.
-/

set_option autoImplicit false

namespace GridChess.Json

/-- Takes a value from the front of a text. -/
abbrev Reader (α : Type) := List Char → Except Fault (α × List Char)

def isSpace (c : Char) : Bool := c == ' ' || c == '\n' || c == '\t' || c == '\r'

def skipSpace (s : List Char) : List Char := s.dropWhile isSpace

/-- Passes over the letters of a word. -/
def readWord : List Char → List Char → Except Fault (List Char)
  | [], s => .ok s
  | _ :: _, [] => .error .truncated
  | w :: word, c :: rest => if c = w then readWord word rest else .error .malformed

/-- The value that starts a text, told from its first token. -/
def readFound (s : List Char) : Except Fault Found := do
  match s with
  | [] => throw .truncated
  | 'n' :: rest => do let _ ← readWord "ull".toList rest; return .null
  | 't' :: rest => do let _ ← readWord "rue".toList rest; return .boolean true
  | 'f' :: rest => do let _ ← readWord "alse".toList rest; return .boolean false
  | '"' :: rest => do
    let (text, _) ← readQuoted .plain rest
    return .text (String.ofList text)
  | '[' :: _ => return .sequence
  | '\x7b' :: _ => return .map
  | c :: _ =>
    if c = '-' ∨ Text.Numeral.isDigit c then do
      let (number, _) ← readNumber s
      return number.found
    else throw .malformed

/-- The fault of a text that starts with anything but what is expected. -/
def unexpected {α : Type} (expected : String) (s : List Char) : Except Fault α := do
  let found ← readFound s
  throw (.mismatch (.wrongType found expected))

def readText : Reader String := fun s =>
  match skipSpace s with
  | '"' :: rest => do
    let (text, rest) ← readQuoted .plain rest
    return (String.ofList text, rest)
  | s => unexpected "a string" s

/-- A text that has to be read in turn. -/
def readParsed {α ε : Type} (parse : String → Except ε α) (reason : ε → String) : Reader α :=
  fun s => do
    let (text, rest) ← readText s
    match parse text with
    | .ok value => return (value, rest)
    | .error fault => throw (.mismatch (.rejected (reason fault)))

/-- An unsigned number of 64 bits. -/
def readUnsigned (expected : String) : Reader UInt64 := fun s =>
  let s := skipSpace s
  match s with
  | c :: _ =>
    if c = '-' ∨ Text.Numeral.isDigit c then do
      let (number, rest) ← readNumber s
      match number with
      | .natural n => return (UInt64.ofNat n, rest)
      | .negative _ => throw (.mismatch (.wrongValue number.found expected))
      | .decimal .. => throw (.mismatch (.wrongType number.found expected))
    else unexpected expected s
  | [] => .error .truncated

def readNull : Reader Unit := fun s =>
  match skipSpace s with
  | 'n' :: rest => do
    let rest ← readWord "ull".toList rest
    return ((), rest)
  | s => unexpected "unit" s

/-- Null stands for nothing. -/
def readOption {α : Type} (item : Reader α) : Reader (Option α) := fun s =>
  match skipSpace s with
  | 'n' :: rest => do
    let rest ← readWord "ull".toList rest
    return (none, rest)
  | s => do
    let (value, rest) ← item s
    return (some value, rest)

/-- Passes over the colon after a name. -/
def readColon (s : List Char) : Except Fault (List Char) :=
  match skipSpace s with
  | ':' :: rest => .ok rest
  | [] => .error .truncated
  | _ => .error .malformed

/-- The start of the next element of a sequence, or nothing before the closing bracket. Elements
after the first stand behind a comma. -/
def nextElement (isFirst : Bool) (s : List Char) : Except Fault (Option (List Char)) :=
  match skipSpace s with
  | [] => .error .truncated
  | ']' :: _ => .ok none
  | c :: rest =>
    if isFirst then .ok (some (c :: rest))
    else if c = ',' then
      match skipSpace rest with
      | [] => .error .truncated
      | ']' :: _ => .error .malformed
      | start => .ok (some start)
    else .error .malformed

/-- Passes over the closing bracket of a sequence. -/
def closeSequence (s : List Char) : Except Fault (List Char) :=
  match skipSpace s with
  | ']' :: rest => .ok rest
  | [] => .error .truncated
  | _ => .error .malformed

/-- Reads elements up to the closing bracket. An element that takes nothing from the text would
never end; no reader does that. -/
def readElements {α : Type} (item : Reader α) (isFirst : Bool) (s : List Char) :
    Except Fault (List α × List Char) := do
  match ← nextElement isFirst s with
  | none =>
    let rest ← closeSequence s
    return ([], rest)
  | some start =>
    let (value, rest) ← item start
    if rest.length < s.length then
      let (values, rest) ← readElements item false rest
      return (value :: values, rest)
    else throw .malformed
termination_by s.length

def readSequence {α : Type} (item : Reader α) : Reader (List α) := fun s =>
  match skipSpace s with
  | '[' :: rest => readElements item true rest
  | s => unexpected "a sequence" s

/-- The name of the next member of an object, and the text after it; or nothing and the text
after the closing brace. -/
def nextMember (isFirst : Bool) (s : List Char) :
    Except Fault (Option String × List Char) := do
  let s := skipSpace s
  match s with
  | [] => throw .truncated
  | '\x7d' :: rest => return (none, rest)
  | c :: rest =>
    let start ←
      if isFirst then pure s
      else if c = ',' then pure (skipSpace rest)
      else throw .malformed
    match start with
    | '"' :: body =>
      let (name, rest) ← readQuoted .plain body
      return (some (String.ofList name), rest)
    | [] => throw .truncated
    | _ => throw .malformed

def variantOf {α : Type} (name : α → String) (all : List α) (text : String) : Except Fault α :=
  match all.find? (fun value => name value = text) with
  | some value => .ok value
  | none => .error (.mismatch (.unknownVariant text (all.map name)))

/-- The name of a value, or an object with that name and null. -/
def readVariant {α : Type} (name : α → String) (all : List α) : Reader α := fun s =>
  match skipSpace s with
  | [] => .error .truncated
  | '"' :: _ => do
    let (text, rest) ← readText s
    let value ← variantOf name all text
    return (value, rest)
  | '\x7b' :: rest => do
    match ← nextMember true rest with
    | (none, _) => throw .malformed
    | (some text, rest) =>
      let value ← variantOf name all text
      let (_, rest) ← readNull (← readColon rest)
      match skipSpace rest with
      | '\x7d' :: rest => return (value, rest)
      | [] => throw .truncated
      | _ => throw .malformed
  | _ => .error .malformed

/-- Reads all of a text, around whose value there may only be space. -/
def readAll {α : Type} (reader : Reader α) (text : String) : Except Fault α := do
  let (value, rest) ← reader text.toList
  if (skipSpace rest).isEmpty then return value else throw .malformed

end GridChess.Json
