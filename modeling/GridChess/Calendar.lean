/-!
# Calendar

Gregorian dates from 1970 on and the number of days since 1 January 1970. Both directions walk
over the lengths of years and months.
-/

set_option autoImplicit false

namespace GridChess.Calendar

structure Date where
  year : Nat
  /-- From one to twelve. -/
  month : Nat
  /-- From one. -/
  day : Nat
  deriving DecidableEq, Repr

def firstYear : Nat := 1970

def isLeap (year : Nat) : Bool := year % 4 = 0 && (year % 100 ≠ 0 || year % 400 = 0)

def yearLength (year : Nat) : Nat := if isLeap year then 366 else 365

def monthLengths (year : Nat) : List Nat :=
  [31, if isLeap year then 29 else 28, 31, 30, 31, 30, 31, 31, 30, 31, 30, 31]

/-- Days in a month; none in a month that no year has. -/
def monthLength (year month : Nat) : Nat :=
  if month = 0 then 0 else (monthLengths year)[month - 1]?.getD 0

def Date.isReal (date : Date) : Bool :=
  0 < date.day && date.day ≤ monthLength date.year date.month

/-- Days in the first `n` years from 1970 on. -/
def daysInYears : Nat → Nat
  | 0 => 0
  | n + 1 => daysInYears n + yearLength (firstYear + n)

/-- Days in months of these lengths together. -/
def total (lengths : List Nat) : Nat := lengths.foldr (· + ·) 0

def Date.toDays (date : Date) : Nat :=
  daysInYears (date.year - firstYear) +
    total ((monthLengths date.year).take (date.month - 1)) + (date.day - 1)

theorem yearLength_pos (year : Nat) : 0 < yearLength year := by
  unfold yearLength
  split <;> decide

/-- The year that lies `days` after the first day of `year`, and the days left in it. -/
def yearAfter (year days : Nat) : Nat × Nat :=
  if days < yearLength year then (year, days)
  else yearAfter (year + 1) (days - yearLength year)
termination_by days
decreasing_by
  have := yearLength_pos year
  omega

/-- The same for months, from a list of month lengths. -/
def monthAfter : List Nat → Nat → Nat → Nat × Nat
  | [], month, days => (month, days)
  | length :: rest, month, days =>
    if days < length then (month, days) else monthAfter rest (month + 1) (days - length)

def Date.ofDays (days : Nat) : Date :=
  let (year, inYear) := yearAfter firstYear days
  let (month, inMonth) := monthAfter (monthLengths year) 1 inYear
  ⟨year, month, inMonth + 1⟩

end GridChess.Calendar
