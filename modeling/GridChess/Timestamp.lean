import GridChess.Calendar
import GridChess.Duration
import GridChess.Text.Numeral
import GridChess.Text.Octets

/-!
# Instants and timestamps

An instant is any number of nanoseconds before or after the start of 1970. A timestamp is an
instant from 1970 up to the end of the year 9999, which are the ones that can be written as
`2021-03-04T05:06:07Z`. Texts are read as octets.
-/

set_option autoImplicit false

namespace GridChess

structure Instant where
  nanoseconds : Int
  deriving DecidableEq, Repr

namespace Instant

def epoch : Instant := ⟨0⟩

def isBeforeEpoch (t : Instant) : Bool := t.nanoseconds < 0

/-- The latest whole second that is not after the instant. -/
def truncated (t : Instant) : Instant :=
  ⟨t.nanoseconds / nanosecondsPerSecond * nanosecondsPerSecond⟩

end Instant

structure Timestamp where
  nanoseconds : Nat
  lt_limit : nanoseconds < 253402300800 * 1000000000 := by decide
  deriving DecidableEq, Repr

namespace Timestamp

inductive Fault where
  | malformed
  | badDigit
  | outOfRange
  deriving DecidableEq, Repr

def Fault.message : Fault → String
  | .malformed => "timestamp format is invalid"
  | .badDigit => "bad character where digit is expected"
  | .outOfRange => "numeric component is out of range"

def instant (t : Timestamp) : Instant := ⟨t.nanoseconds⟩

/-- Earlier instants become the start of 1970; there is no timestamp from the year 10000 on. -/
def ofInstant? (t : Instant) : Option Timestamp :=
  let n := t.nanoseconds.toNat
  if h : n < 253402300800 * 1000000000 then some ⟨n, h⟩ else none

def secondsPerDay : Nat := 86400

/-- Whole seconds only. -/
def chars (t : Timestamp) : List Char :=
  let seconds := t.nanoseconds / nanosecondsPerSecond
  let date := Calendar.Date.ofDays (seconds / secondsPerDay)
  let inDay := seconds % secondsPerDay
  let two := Text.Numeral.twoDigits
  two (date.year / 100) ++ two (date.year % 100) ++ '-' :: two date.month ++
    '-' :: two date.day ++ 'T' :: two (inDay / 3600) ++ ':' :: two (inDay / 60 % 60) ++
    ':' :: two (inDay % 60) ++ ['Z']

instance : ToString Timestamp := ⟨fun t => String.ofList t.chars⟩

def octet (c : Char) : UInt8 := c.toNat.toUInt8

def digit (b : UInt8) : Except Fault Nat :=
  if octet '0' ≤ b ∧ b ≤ octet '9' then .ok (b.toNat - 48) else .error .badDigit

def twoDigits (tens ones : UInt8) : Except Fault Nat := do
  let t ← digit tens
  let o ← digit ones
  return 10 * t + o

/-- The digits after the point, each worth `unit` nanoseconds, less with every digit. They end
with the text, at a final `Z`, or at a plus sign six octets before the end. -/
def fraction : Nat → List UInt8 → Except Fault Nat
  | _, [] => .ok 0
  | unit, b :: rest =>
    if b = octet 'Z' then
      if rest.isEmpty then .ok 0 else .error .badDigit
    else if b = octet '+' then
      if rest.length = 5 then .ok 0 else .error .badDigit
    else do
      let d ← digit b
      let later ← fraction (unit / 10) rest
      return unit * d + later

/-- What may follow the seconds: a fraction, nothing, a zero offset, or a `Z` after which at
most five octets are not looked at. The value is the fraction in nanoseconds. -/
def ending : List UInt8 → Except Fault Nat
  | [] => .ok 0
  | b :: rest =>
    if b = octet '.' then fraction 100000000 rest
    else if b = octet 'Z' ∧ rest.length ≤ 5 then .ok 0
    else if b :: rest = Text.octets "+00:00" then .ok 0
    else .error .malformed

def readOctets : List UInt8 → Except Fault Timestamp
  | y₁ :: y₂ :: y₃ :: y₄ :: dash₁ :: m₁ :: m₂ :: dash₂ :: d₁ :: d₂ :: middle ::
      h₁ :: h₂ :: colon₁ :: n₁ :: n₂ :: colon₂ :: s₁ :: s₂ :: rest => do
    if dash₁ ≠ octet '-' ∨ dash₂ ≠ octet '-' ∨ (middle ≠ octet 'T' ∧ middle ≠ octet ' ') ∨
        colon₁ ≠ octet ':' ∨ colon₂ ≠ octet ':' then
      throw .malformed
    let century ← twoDigits y₁ y₂
    let inCentury ← twoDigits y₃ y₄
    let month ← twoDigits m₁ m₂
    let day ← twoDigits d₁ d₂
    let hour ← twoDigits h₁ h₂
    let minute ← twoDigits n₁ n₂
    let second ← twoDigits s₁ s₂
    let date : Calendar.Date := ⟨100 * century + inCentury, month, day⟩
    if date.year < Calendar.firstYear ∨ 23 < hour ∨ 59 < minute ∨ 60 < second then
      throw .outOfRange
    if ¬ date.isReal then
      throw .outOfRange
    let nanoseconds ← ending rest
    -- A leap second counts as the second before it.
    let seconds :=
      date.toDays * secondsPerDay + 3600 * hour + 60 * minute + min second 59
    match ofInstant? ⟨seconds * nanosecondsPerSecond + nanoseconds⟩ with
    | some t => return t
    | none => throw .outOfRange
  | _ => .error .malformed

def read (text : String) : Except Fault Timestamp := readOctets (Text.octets text)

end Timestamp

end GridChess
