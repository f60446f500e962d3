import GridChess.Text.Numeral
import GridChess.Text.Quoted

/-!
# Faults of JSON texts

Why a JSON text does not hold the value that is expected of it: it is not JSON, it ends too
early, or it is JSON of another shape.
-/

set_option autoImplicit false

namespace GridChess.Json

/-- What stands in the text, as far as its first token tells. -/
inductive Found where
  | null
  | boolean (b : Bool)
  | integer (n : Int)
  /-- A number that is no 64-bit integer, by its decimal text. -/
  | decimal (shown : String)
  | text (s : String)
  | sequence
  | map
  deriving DecidableEq, Repr

def Found.describe : Found → String
  | .null => "null"
  | .boolean b => s!"boolean `{b}`"
  | .integer n => "integer `" ++ String.ofList (Text.Numeral.integer n) ++ "`"
  | .decimal shown => "floating point `" ++ shown ++ "`"
  | .text s => "string " ++ Text.quoted s
  | .sequence => "sequence"
  | .map => "map"

/-- A value of the wrong shape. -/
inductive Mismatch where
  | wrongType (found : Found) (expected : String)
  | wrongValue (found : Found) (expected : String)
  | unknownVariant (name : String) (known : List String)
  | repeatedField (name : String)
  | missingField (name : String)
  /-- A sequence of `length` elements where the named record has `fields`. -/
  | tooShort (length : Nat) (record : String) (fields : Nat)
  /-- A text that is no duration or timestamp, with the reason. -/
  | rejected (reason : String)
  deriving DecidableEq, Repr

def backquoted (name : String) : String := "`" ++ name ++ "`"

/-- How the known names are listed: two are joined by `or`, more follow `one of`. -/
def listNames : List String → String
  | [] => "there are no variants"
  | [a] => "expected " ++ backquoted a
  | [a, b] => "expected " ++ backquoted a ++ " or " ++ backquoted b
  | names => "expected one of " ++ ", ".intercalate (names.map backquoted)

def Mismatch.message : Mismatch → String
  | .wrongType found expected => s!"invalid type: {found.describe}, expected {expected}"
  | .wrongValue found expected => s!"invalid value: {found.describe}, expected {expected}"
  | .unknownVariant name known =>
    "unknown variant " ++ backquoted name ++ ", " ++ listNames known
  | .repeatedField name => "duplicate field " ++ backquoted name
  | .missingField name => "missing field " ++ backquoted name
  | .tooShort length record fields =>
    s!"invalid length {length}, expected struct {record} with {fields} elements"
  | .rejected reason => reason

inductive Fault where
  /-- The text is not JSON. -/
  | malformed
  /-- The text ends before the value does. -/
  | truncated
  | mismatch (reason : Mismatch)
  deriving DecidableEq, Repr

/-- Faults of the text itself are not described further. -/
def Fault.message : Fault → String
  | .malformed => "malformed JSON"
  | .truncated => "JSON text ends too early"
  | .mismatch reason => reason.message

end GridChess.Json
