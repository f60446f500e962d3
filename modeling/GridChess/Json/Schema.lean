import GridChess.Json.Skip

/-!
# JSON records

A record is an object with named fields, or a sequence of its fields in order. Fields that are
not required keep the value they have in the blank record. Members with other names are passed
over.
-/

set_option autoImplicit false

namespace GridChess.Json

/-- A field of a record, and how its value is put into the record. -/
structure Field (α : Type) where
  name : String
  required : Bool := true
  read : α → Reader α

/-- A field read by `item` and stored by `store`. -/
def Field.of {α β : Type} (name : String) (required : Bool) (item : Reader β)
    (store : α → β → α) : Field α where
  name := name
  required := required
  read := fun record s => do
    let (value, rest) ← item s
    return (store record value, rest)

structure Schema (α : Type) where
  name : String
  blank : α
  fields : List (Field α)

namespace Schema

variable {α : Type}

/-- Reads the elements of a sequence into the fields in order; `index` is the first one's. -/
def readPositions (schema : Schema α) : List (Field α) → Nat → Bool → α → Reader α
  | [], _, _, record, s => do
    let rest ← closeSequence s
    return (record, rest)
  | field :: fields, index, isFirst, record, s => do
    match ← nextElement isFirst s with
    | some start =>
      let (record, rest) ← field.read record start
      schema.readPositions fields (index + 1) false record rest
    | none =>
      if field.required then
        throw (.mismatch (.tooShort index schema.name schema.fields.length))
      schema.readPositions fields (index + 1) isFirst record s

/-- The first required field whose name is not among those seen. -/
def missing? (schema : Schema α) (seen : List String) : Option (Field α) :=
  schema.fields.find? fun field => field.required && !seen.contains field.name

/-- Reads a member whose name has been read. -/
def readMember (schema : Schema α) (seen : List String) (record : α) (name : String)
    (s : List Char) : Except Fault (α × List Char) :=
  match schema.fields.find? (·.name = name) with
  | none => do
    let rest ← skipValue (← readColon s)
    return (record, rest)
  | some field =>
    if seen.contains name then .error (.mismatch (.repeatedField name))
    else do field.read record (← readColon s)

/-- Reads members up to the closing brace. -/
def readMembers (schema : Schema α) (seen : List String) (record : α) (isFirst : Bool)
    (s : List Char) : Except Fault (α × List Char) := do
  match ← nextMember isFirst s with
  | (none, rest) =>
    match schema.missing? seen with
    | some field => throw (.mismatch (.missingField field.name))
    | none => return (record, rest)
  | (some name, rest) =>
    let (record, rest) ← schema.readMember seen record name rest
    if rest.length < s.length then
      schema.readMembers (name :: seen) record false rest
    else throw .malformed
termination_by s.length

def read (schema : Schema α) : Reader α := fun s =>
  match skipSpace s with
  | '[' :: rest => schema.readPositions schema.fields 0 true schema.blank rest
  | '\x7b' :: rest => schema.readMembers [] schema.blank true rest
  | s => unexpected ("struct " ++ schema.name) s

end Schema

end GridChess.Json
