import GridChess.Json.Text

/-!
# JSON writers

A writer writes one value in either of two styles: compact, without any space, or indented, with
every element and member on a line of its own, two spaces deeper than what it belongs to.
-/

set_option autoImplicit false

namespace GridChess.Json

inductive Style where
  | compact | indented
  deriving DecidableEq, Repr

/-- Writes a value in a style, at a depth of nesting. -/
abbrev Writer := Style → Nat → List Char

def Style.newline : Style → Nat → List Char
  | .compact, _ => []
  | .indented, depth => '\n' :: List.replicate (2 * depth) ' '

def Style.colon : Style → List Char
  | .compact => [':']
  | .indented => [':', ' ']

namespace Writer

def null : Writer := fun _ _ => "null".toList

def text (s : String) : Writer := fun _ _ => writeText s

def natural (n : Nat) : Writer := fun _ _ => Text.Numeral.natural n

def option {α : Type} (item : α → Writer) : Option α → Writer
  | none => null
  | some value => item value

/-- The writers one after the other, each on a line of its own, with commas between them. -/
def separated (items : List Writer) : Writer := fun style depth =>
  match items with
  | [] => []
  | first :: rest =>
    style.newline depth ++ first style depth ++
      rest.flatMap fun item => ',' :: style.newline depth ++ item style depth

/-- Nothing stands between the brackets of an empty list. -/
def bracketed (opening closing : Char) (items : List Writer) : Writer := fun style depth =>
  if items.isEmpty then [opening, closing]
  else opening :: separated items style (depth + 1) ++ style.newline depth ++ [closing]

def sequence (items : List Writer) : Writer := bracketed '[' ']' items

def member (name : String) (value : Writer) : Writer := fun style depth =>
  writeText name ++ style.colon ++ value style depth

def object (members : List (String × Writer)) : Writer :=
  bracketed '\x7b' '\x7d' (members.map fun (name, value) => member name value)

/-- The text of a whole document. -/
def document (writer : Writer) (style : Style) : String := String.ofList (writer style 0)

end Writer

end GridChess.Json
