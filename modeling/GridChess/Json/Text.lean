import GridChess.Json.Fault

/-!
# JSON texts in quotes

Quotes, backslashes and control characters are escaped when a text is written. Reading also
accepts every character as one or, beyond the first 65536, two escaped code units. What is
written reads back (`readQuoted_escaped`).
-/

set_option autoImplicit false

namespace GridChess.Json

/-- Where in a quoted text the reader stands. -/
inductive TextState where
  | plain
  /-- After a backslash. -/
  | escape
  /-- In an escaped code unit, of which some hexadecimal digits have been read; `first` is the
  first half of a pair. -/
  | unit (first : Option Nat) (digits : List Nat)
  /-- After the first half of a pair, before the backslash of the second. -/
  | pairSlash (first : Nat)
  /-- After that backslash. -/
  | pairLetter (first : Nat)
  deriving DecidableEq, Repr

def hexValue? (c : Char) : Option Nat :=
  if '0' ≤ c ∧ c ≤ '9' then some (c.toNat - '0'.toNat)
  else if 'a' ≤ c ∧ c ≤ 'f' then some (c.toNat - 'a'.toNat + 10)
  else if 'A' ≤ c ∧ c ≤ 'F' then some (c.toNat - 'A'.toNat + 10)
  else none

def hexNumber (digits : List Nat) : Nat := digits.foldl (fun n d => 16 * n + d) 0

/-- The character after a backslash stands for this one. -/
def unescaped? (c : Char) : Option Char :=
  match c with
  | '"' => some '"'
  | '\\' => some '\\'
  | '/' => some '/'
  | 'b' => some '\x08'
  | 'f' => some '\x0c'
  | 'n' => some '\n'
  | 'r' => some '\r'
  | 't' => some '\t'
  | _ => none

def isFirstHalf (unit : Nat) : Bool := 0xD800 ≤ unit && unit ≤ 0xDBFF

def isSecondHalf (unit : Nat) : Bool := 0xDC00 ≤ unit && unit ≤ 0xDFFF

def joinHalves (first second : Nat) : Char :=
  Char.ofNat (0x10000 + (first - 0xD800) * 0x400 + (second - 0xDC00))

/-- What a complete code unit gives: a character, or the state before the second half. -/
def finishUnit (first : Option Nat) (unit : Nat) : Except Fault (Option Char × TextState) :=
  match first with
  | some half =>
    if isSecondHalf unit then .ok (some (joinHalves half unit), .plain) else .error .malformed
  | none =>
    if isFirstHalf unit then .ok (none, .pairSlash unit)
    else if isSecondHalf unit then .error .malformed
    else .ok (some (Char.ofNat unit), .plain)

/-- A character that is no hexadecimal digit. Four octets have to follow the escape; if the text
ends before them, that is reported instead. -/
def badUnit (read : Nat) (rest : List Char) : Fault :=
  if read + rest.foldr (fun c size => c.utf8Size + size) 0 < 4 then .truncated else .malformed

/-- One character: the character of the text that it completes, if any, and the next state. -/
def TextState.next (state : TextState) (c : Char) (rest : List Char) :
    Except Fault (Option Char × TextState) :=
  match state with
  | .plain =>
    if c = '\\' then .ok (none, .escape)
    else if c.toNat < 0x20 then .error .malformed
    else .ok (some c, .plain)
  | .escape =>
    if c = 'u' then .ok (none, .unit none [])
    else match unescaped? c with
      | some meant => .ok (some meant, .plain)
      | none => .error .malformed
  | .unit first digits =>
    match hexValue? c with
    | none => .error (badUnit digits.length (c :: rest))
    | some d =>
      if digits.length = 3 then finishUnit first (hexNumber (digits ++ [d]))
      else .ok (none, .unit first (digits ++ [d]))
  | .pairSlash first => if c = '\\' then .ok (none, .pairLetter first) else .error .malformed
  | .pairLetter first => if c = 'u' then .ok (none, .unit (some first) []) else .error .malformed

/-- Reads up to the closing quote, which is dropped. -/
def readQuoted : TextState → List Char → Except Fault (List Char × List Char)
  | _, [] => .error .truncated
  | state, c :: rest =>
    if state = .plain ∧ c = '"' then .ok ([], rest)
    else do
      let (meant, state) ← state.next c rest
      let (text, rest) ← readQuoted state rest
      return (meant.toList ++ text, rest)

/-- Passes over a text up to the closing quote. Halves of pairs may stand alone. -/
def skipQuoted : TextState → List Char → Except Fault (List Char)
  | _, [] => .error .truncated
  | .plain, '"' :: rest => .ok rest
  | .unit first digits, c :: rest =>
    match hexValue? c with
    | none => .error (badUnit digits.length (c :: rest))
    | some d =>
      skipQuoted (if digits.length = 3 then .plain else .unit first (digits ++ [d])) rest
  | state, c :: rest => do
    let (_, state) ← state.next c rest
    skipQuoted state rest

/-- Control characters without a letter of their own are written as code units. -/
def escapedChar (c : Char) : List Char :=
  match c with
  | '"' => ['\\', '"']
  | '\\' => ['\\', '\\']
  | '\x08' => ['\\', 'b']
  | '\x0c' => ['\\', 'f']
  | '\n' => ['\\', 'n']
  | '\r' => ['\\', 'r']
  | '\t' => ['\\', 't']
  | _ =>
    if c.toNat < 0x20 then
      ['\\', 'u', '0', '0', Nat.digitChar (c.toNat / 16), Nat.digitChar (c.toNat % 16)]
    else [c]

def writeText (text : String) : List Char :=
  '"' :: text.toList.flatMap escapedChar ++ ['"']

theorem hexValue?_digitChar {d : Nat} (h : d < 16) : hexValue? (Nat.digitChar d) = some d := by
  have : ∀ d < 16, hexValue? (Nat.digitChar d) = some d := by decide
  exact this d h

/-- A step that completes a character puts it in front of the text. -/
theorem readQuoted_of_next {state next : TextState} {c meant : Char} {rest : List Char}
    (h : state.next c rest = .ok (some meant, next)) (stays : ¬(state = .plain ∧ c = '"')) :
    readQuoted state (c :: rest) =
      (readQuoted next rest).map fun (text, rest) => (meant :: text, rest) := by
  rw [readQuoted, if_neg stays, h]
  simp only [bind, Except.bind]
  cases readQuoted next rest <;> rfl

/-- A step that completes no character leaves the text as it is. -/
theorem readQuoted_of_next_none {state : TextState} {c : Char} {rest : List Char}
    (next : TextState) (h : state.next c rest = .ok (none, next))
    (stays : ¬(state = .plain ∧ c = '"')) :
    readQuoted state (c :: rest) = readQuoted next rest := by
  rw [readQuoted, if_neg stays, h]
  simp only [bind, Except.bind]
  cases readQuoted next rest <;> rfl

theorem readQuoted_escape {c meant : Char} (h : unescaped? c = some meant) (hu : c ≠ 'u')
    (rest : List Char) :
    readQuoted .plain ('\\' :: c :: rest) =
      (readQuoted .plain rest).map fun (text, rest) => (meant :: text, rest) := by
  rw [readQuoted_of_next_none .escape (by simp [TextState.next]) (by simp)]
  exact readQuoted_of_next (by simp [TextState.next, hu, h]) (by simp)

/-- The escape of a control character stands for it. -/
theorem readQuoted_unit {n : Nat} (h : n < 32) (rest : List Char) :
    readQuoted .plain
        ('\\' :: 'u' :: '0' :: '0' :: Nat.digitChar (n / 16) :: Nat.digitChar (n % 16) :: rest) =
      (readQuoted .plain rest).map fun (text, rest) => (Char.ofNat n :: text, rest) := by
  have zero : hexValue? '0' = some 0 := by decide
  have high : hexValue? (Nat.digitChar (n / 16)) = some (n / 16) :=
    hexValue?_digitChar (by omega)
  have low : hexValue? (Nat.digitChar (n % 16)) = some (n % 16) :=
    hexValue?_digitChar (by omega)
  have number : hexNumber [0, 0, n / 16, n % 16] = n := by
    simp [hexNumber]
    omega
  rw [readQuoted_of_next_none .escape (by simp [TextState.next]) (by simp),
    readQuoted_of_next_none (.unit none []) (by simp [TextState.next]) (by simp),
    readQuoted_of_next_none (.unit none [0]) (by simp [TextState.next, zero]) (by simp),
    readQuoted_of_next_none (.unit none [0, 0]) (by simp [TextState.next, zero])
      (by simp),
    readQuoted_of_next_none (.unit none [0, 0, n / 16])
      (by simp [TextState.next, high]) (by simp)]
  refine readQuoted_of_next ?_ (by simp)
  have first : isFirstHalf n = false := by
    simp [isFirstHalf]
    omega
  have second : isSecondHalf n = false := by
    simp [isSecondHalf]
    omega
  simp [TextState.next, low, finishUnit, number, first, second]

/-- Whatever the escape of a character is, it stands for the character. -/
theorem readQuoted_escapedChar (c : Char) (rest : List Char) :
    readQuoted .plain (escapedChar c ++ rest) =
      (readQuoted .plain rest).map fun (text, rest) => (c :: text, rest) := by
  unfold escapedChar
  split
  · exact readQuoted_escape rfl (by decide) rest
  · exact readQuoted_escape rfl (by decide) rest
  · exact readQuoted_escape rfl (by decide) rest
  · exact readQuoted_escape rfl (by decide) rest
  · exact readQuoted_escape rfl (by decide) rest
  · exact readQuoted_escape rfl (by decide) rest
  · exact readQuoted_escape rfl (by decide) rest
  · rename_i quote slash _ _ _ _ _
    split
    · rename_i control
      simpa using readQuoted_unit control rest
    · rename_i shown
      exact readQuoted_of_next
        (by simp [TextState.next, shown, show c ≠ '\\' from fun h => slash h])
        (by simpa using fun h => quote h)

/-- Reading gives back the text that was written, and the characters after it. -/
theorem readQuoted_escaped (text rest : List Char) :
    readQuoted .plain (text.flatMap escapedChar ++ '"' :: rest) = .ok (text, rest) := by
  induction text with
  | nil => simp [readQuoted]
  | cons c text ih =>
    rw [List.flatMap_cons, List.append_assoc, readQuoted_escapedChar, ih]
    rfl

end GridChess.Json
