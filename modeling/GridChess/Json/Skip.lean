import GridChess.Json.Reader

/-!
# Passing over JSON values

Values that nobody asks for are passed over. They have to be JSON, but numbers may have any size
and values may be nested to any depth; the open brackets are kept in a list.
-/

set_option autoImplicit false

namespace GridChess.Json

/-- What is open around the place where the reader stands. -/
inductive Bracket where
  | square | brace
  deriving DecidableEq, Repr

def Bracket.closing : Bracket → Char
  | .square => ']'
  | .brace => '\x7d'

/-- What the reader expects to pass over next. -/
inductive Expected where
  /-- A value. -/
  | value
  /-- What follows an opening bracket: the closing one, or a first element or member. -/
  | opened
  /-- What follows a value: a comma, or the closing bracket. -/
  | follower
  /-- The name of a member and its colon. -/
  | name
  deriving DecidableEq, Repr

/-- Passes over the name of a member and its colon. -/
def skipName (s : List Char) : Except Fault (List Char) := do
  match skipSpace s with
  | '"' :: rest => readColon (← skipQuoted .plain rest)
  | [] => throw .truncated
  | _ => throw .malformed

/-- Passes over a value that is no sequence or object. -/
def skipScalar (s : List Char) : Except Fault (List Char) :=
  match s with
  | [] => .error .truncated
  | 'n' :: rest => readWord "ull".toList rest
  | 't' :: rest => readWord "rue".toList rest
  | 'f' :: rest => readWord "alse".toList rest
  | '"' :: rest => skipQuoted .plain rest
  | c :: _ =>
    if c = '-' ∨ Text.Numeral.isDigit c then skipNumber s else .error .malformed

/-- What is expected where an item inside a bracket starts. -/
def Bracket.itemStart : Bracket → Expected
  | .square => .value
  | .brace => .name

/-- Passes over what is expected: the brackets that are then open, what is expected next, and the
characters left. -/
def Expected.step (expected : Expected) (opened : List Bracket) (s : List Char) :
    Except Fault (List Bracket × Expected × List Char) := do
  let s := skipSpace s
  match expected with
  | .value =>
    match s with
    | '[' :: rest => return (.square :: opened, .opened, rest)
    | '\x7b' :: rest => return (.brace :: opened, .opened, rest)
    | _ => return (opened, .follower, ← skipScalar s)
  | .opened =>
    match opened, s with
    | _, [] => throw .truncated
    | [], _ => throw .malformed
    | bracket :: outer, c :: rest =>
      if c = bracket.closing then return (outer, .follower, rest)
      else return (opened, bracket.itemStart, s)
  | .follower =>
    match opened, s with
    | _, [] => throw .truncated
    | [], _ => throw .malformed
    | bracket :: outer, c :: rest =>
      if c = bracket.closing then return (outer, .follower, rest)
      else if c = ',' then return (opened, bracket.itemStart, rest)
      else throw .malformed
  | .name => return (opened, .value, ← skipName s)

/-- Goes on until a value is complete and no bracket is open. There are never more than two steps
to a character. -/
def skipExpected : Nat → Expected → List Bracket → List Char → Except Fault (List Char)
  | _, .follower, [], s => .ok s
  | 0, _, _, _ => .error .malformed
  | fuel + 1, expected, opened, s => do
    let (opened, expected, s) ← expected.step opened s
    skipExpected fuel expected opened s

/-- Passes over a value of any shape. -/
def skipValue (s : List Char) : Except Fault (List Char) :=
  skipExpected (2 * s.length + 2) .value [] s

end GridChess.Json
