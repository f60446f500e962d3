import GridChess.Duration
import GridChess.Text.Blank
import GridChess.Text.Numeral

/-!
# Duration texts

Durations are written as amounts of units, largest unit first, such as `1m 8s`. Reading accepts
any sequence of amounts, with a decimal fraction where it comes out exact, and adds them up. A
year is 365.25 days and a month 30.44 days. Texts are read once from left to right, so the first
problem met is the one reported.
-/

set_option autoImplicit false

namespace GridChess.Duration

open GridChess.Text

inductive TimeUnit where
  | nanosecond | microsecond | millisecond | second | minute | hour | day | week | month | year
  deriving DecidableEq, Repr

namespace TimeUnit

/-- Accepted spellings. -/
def spellings : List (String × TimeUnit) :=
  [("nanos", .nanosecond), ("nsec", .nanosecond), ("ns", .nanosecond),
   ("usec", .microsecond), ("us", .microsecond), ("µs", .microsecond),
   ("millis", .millisecond), ("msec", .millisecond), ("ms", .millisecond),
   ("seconds", .second), ("second", .second), ("secs", .second), ("sec", .second),
   ("s", .second),
   ("minutes", .minute), ("minute", .minute), ("min", .minute), ("mins", .minute),
   ("m", .minute),
   ("hours", .hour), ("hour", .hour), ("hr", .hour), ("hrs", .hour), ("h", .hour),
   ("days", .day), ("day", .day), ("d", .day),
   ("weeks", .week), ("week", .week), ("wk", .week), ("wks", .week), ("w", .week),
   ("months", .month), ("month", .month), ("M", .month),
   ("years", .year), ("year", .year), ("yr", .year), ("yrs", .year), ("y", .year)]

def ofChars? (name : List Char) : Option TimeUnit :=
  (spellings.find? fun entry => entry.1.toList == name).map (·.2)

end TimeUnit

/-- An amount in whole seconds or in nanoseconds. -/
inductive Measure where
  | seconds (n : Nat)
  | nanoseconds (n : Nat)
  deriving DecidableEq, Repr

namespace TimeUnit

/-- One unit. -/
def whole : TimeUnit → Measure
  | .nanosecond => .nanoseconds 1
  | .microsecond => .nanoseconds 1000
  | .millisecond => .nanoseconds 1000000
  | .second => .seconds 1
  | .minute => .seconds 60
  | .hour => .seconds 3600
  | .day => .seconds 86400
  | .week => .seconds 604800
  | .month => .seconds 2630016
  | .year => .seconds 31557600

/-- The measure in which fractions of one unit have to be whole; nanoseconds have none. -/
def divisible : TimeUnit → Option Measure
  | .nanosecond => none
  | .second => some (.nanoseconds 1000000000)
  | .minute => some (.nanoseconds 60000000000)
  | unit => some unit.whole

end TimeUnit

inductive Fault where
  | empty
  | numberExpected (offset : Nat)
  | invalidCharacter (offset : Nat)
  | tooLarge
  | unitMissing (number : Nat)
  | unknownUnit (name : String)
  deriving DecidableEq, Repr

def Fault.message : Fault → String
  | .empty => "value was empty"
  | .numberExpected offset => s!"expected number at {offset}"
  | .invalidCharacter offset => s!"invalid character at {offset}"
  | .tooLarge =>
    "number is too large or cannot be represented without a lack of precision " ++
      "(values below 1ns are not supported)"
  | .unitMissing number => s!"time unit needed, for example {number}sec or {number}ms"
  | .unknownUnit name =>
    "unknown time unit \"" ++ name ++ "\", supported units: ns, us/µs, ms, sec, " ++
      "min, hours, days, weeks, months, years (and few variations)"

/-- A number that must fit in 64 bits. -/
def word (n : Nat) : Except Fault Nat :=
  if n < Numeral.wordLimit then .ok n else .error .tooLarge

/-- The quotient, which must be exact. -/
def exactly (n divisor : Nat) : Except Fault Nat :=
  if n % divisor = 0 then .ok (n / divisor) else .error .tooLarge

def plus (total : Duration) (more : Measure) : Except Fault Duration := do
  let nanoseconds ← match more with
    | .seconds n => pure (n * nanosecondsPerSecond)
    | .nanoseconds n => do
      let _ ← word (total.subsecond + n)
      pure n
  match ofNanoseconds? (total.nanoseconds + nanoseconds) with
  | some sum => .ok sum
  | none => .error .tooLarge

/-- The measure of `number` times `one`, divided by `divisor`. -/
def Measure.times (one : Measure) (number divisor : Nat) : Except Fault Measure :=
  match one with
  | .seconds n => do
    let product ← word (number * n)
    return .seconds (← exactly product divisor)
  | .nanoseconds n => do
    let product ← word (number * n)
    return .nanoseconds (← exactly product divisor)

/-- A decimal fraction: its digits as a number, and how many there are. -/
structure Fraction where
  numerator : Nat
  digits : Nat
  deriving DecidableEq, Repr

/-- Adds an amount whose unit has been read to the end. -/
def addAmount (total : Duration) (number : Nat) (fraction : Option Fraction)
    (name : List Char) : Except Fault Duration := do
  let unit ← match TimeUnit.ofChars? name with
    | some unit => pure unit
    | none =>
      throw (if name.isEmpty then .unitMissing number else .unknownUnit (String.ofList name))
  let total ← total.plus (← unit.whole.times number 1)
  match fraction, unit.divisible with
  | none, _ => return total
  | some _, none => throw .tooLarge
  | some f, some one => total.plus (← one.times f.numerator (Nat.pow 10 f.digits))

/-- Where in an amount the reader stands. -/
inductive Phase where
  /-- Before an amount; `start` is where the search for it began. -/
  | gap (start : Nat) (anyRead : Bool)
  | whole (number : Nat)
  /-- After the point; `blame` is the offset that a stray character is reported at. -/
  | fraction (number : Nat) (read : Fraction) (blame : Nat)
  | unit (number : Nat) (fraction : Option Fraction) (name : List Char)
  deriving DecidableEq, Repr

def isUnitLetter (c : Char) : Bool :=
  ('a' ≤ c && c ≤ 'z') || ('A' ≤ c && c ≤ 'Z') || c == 'µ'

/-- Reads the characters from `offset` on and adds the amounts to `total`. -/
def scan : Phase → Nat → Duration → List Char → Except Fault Duration
  | .gap _ anyRead, _, total, [] => if anyRead then .ok total else .error .empty
  | .whole number, _, total, [] => addAmount total number none []
  | .fraction number read blame, _, total, [] =>
    if read.digits = 0 then .error (.invalidCharacter blame)
    else addAmount total number (some read) []
  | .unit number fraction name, _, total, [] => addAmount total number fraction name
  | .gap start anyRead, offset, total, c :: rest =>
    let next := offset + c.utf8Size
    if Numeral.isDigit c then scan (.whole (Numeral.digitValue c)) next total rest
    else if isBlank c then scan (.gap start anyRead) next total rest
    else .error (.numberExpected start)
  | .whole number, offset, total, c :: rest =>
    let next := offset + c.utf8Size
    if Numeral.isDigit c then do
      let number ← word (10 * number + Numeral.digitValue c)
      scan (.whole number) next total rest
    else if isBlank c then scan (.whole number) next total rest
    else if isUnitLetter c then scan (.unit number none [c]) next total rest
    else if c == '.' then scan (.fraction number ⟨0, 0⟩ offset) next total rest
    else .error (.invalidCharacter offset)
  | .fraction number read blame, offset, total, c :: rest =>
    let next := offset + c.utf8Size
    if Numeral.isDigit c then do
      let _ ← word (Nat.pow 10 (read.digits + 1))
      let read := ⟨10 * read.numerator + Numeral.digitValue c, read.digits + 1⟩
      scan (.fraction number read next) next total rest
    else if isBlank c then scan (.fraction number read next) next total rest
    else if isUnitLetter c && read.digits ≠ 0 then
      scan (.unit number (some read) [c]) next total rest
    else .error (.invalidCharacter blame)
  | .unit number fraction name, offset, total, c :: rest =>
    let next := offset + c.utf8Size
    if Numeral.isDigit c then do
      let total ← addAmount total number fraction name
      scan (.whole (Numeral.digitValue c)) next total rest
    else if isBlank c then do
      let total ← addAmount total number fraction name
      scan (.gap next true) next total rest
    else if isUnitLetter c then scan (.unit number fraction (name ++ [c])) next total rest
    else .error (.invalidCharacter offset)

/-- Reads a duration. The empty text and a bare zero need no unit. -/
def read (text : String) : Except Fault Duration :=
  if text = "" ∨ text = "0" then .ok zero
  else scan (.gap 0 false) 0 zero text.toList

/-- An amount and its unit, the unit in the plural from two on. -/
def counted (amount : Nat) (unit : String) : Nat × List Char :=
  (amount, if amount = 1 then unit.toList else unit.toList ++ ['s'])

/-- Every unit that texts are written with, with its amount. -/
def amounts (d : Duration) : List (Nat × List Char) :=
  let inYear := d.seconds % 31557600
  let inMonth := inYear % 2630016
  let inDay := inMonth % 86400
  [counted (d.seconds / 31557600) "year",
   counted (inYear / 2630016) "month",
   counted (inMonth / 86400) "day",
   (inDay / 3600, "h".toList),
   (inDay % 3600 / 60, "m".toList),
   (inDay % 60, "s".toList),
   (d.subsecond / 1000000, "ms".toList),
   (d.subsecond / 1000 % 1000, "us".toList),
   (d.subsecond % 1000, "ns".toList)]

def chars (d : Duration) : List Char :=
  match d.amounts.filter (·.1 ≠ 0) with
  | [] => "0s".toList
  | shown => [' '].intercalate (shown.map fun part => Numeral.natural part.1 ++ part.2)

instance : ToString Duration := ⟨fun d => String.ofList d.chars⟩

end GridChess.Duration
