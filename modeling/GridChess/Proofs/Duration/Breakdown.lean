import GridChess.Duration.Text

/-!
# Durations in units

The text of a duration counts how often each unit goes into what the larger units leave, from years
down to nanoseconds (`amounts_eq_spell`).
-/

set_option autoImplicit false

namespace GridChess.Duration

open GridChess.Text

/-! ## Breaking a duration down -/

/-- The nanoseconds of one unit. -/
def TimeUnit.nanoseconds (unit : TimeUnit) : Nat :=
  match unit.whole with
  | .seconds n => n * nanosecondsPerSecond
  | .nanoseconds n => n

/-- The units of texts, from large to small. Weeks are only read. -/
def writtenUnits : List TimeUnit :=
  [.year, .month, .day, .hour, .minute, .second, .millisecond, .microsecond, .nanosecond]

/-- How often each unit goes into what the units before it leave. -/
def breakdown : List TimeUnit → Nat → List (Nat × TimeUnit)
  | [], _ => []
  | unit :: smaller, n => (n / unit.nanoseconds, unit) :: breakdown smaller (n % unit.nanoseconds)

theorem breakdown_cons (unit : TimeUnit) (smaller : List TimeUnit) (n : Nat) :
    breakdown (unit :: smaller) n =
      (n / unit.nanoseconds, unit) :: breakdown smaller (n % unit.nanoseconds) := rfl

/-- A unit of whole seconds goes into the seconds and leaves the part below a second as it is. -/
theorem breakdown_seconds (unit : TimeUnit) (smaller : List TimeUnit) (k seconds part : Nat)
    (measure : unit.nanoseconds = nanosecondsPerSecond * k) (below : part < nanosecondsPerSecond) :
    breakdown (unit :: smaller) (nanosecondsPerSecond * seconds + part) =
      (seconds / k, unit) :: breakdown smaller (nanosecondsPerSecond * (seconds % k) + part) := by
  have positive : 0 < nanosecondsPerSecond := by decide
  have quotient : (nanosecondsPerSecond * seconds + part) / nanosecondsPerSecond = seconds := by
    rw [Nat.mul_add_div positive, Nat.div_eq_of_lt below, Nat.add_zero]
  have remainder : (nanosecondsPerSecond * seconds + part) % nanosecondsPerSecond = part := by
    rw [Nat.mul_add_mod, Nat.mod_eq_of_lt below]
  rw [breakdown_cons, measure, ← Nat.div_div_eq_div_mul, quotient, Nat.mod_mul, quotient,
    remainder, Nat.add_comm part]

theorem breakdown_subsecond (n : Nat) :
    breakdown [.millisecond, .microsecond, .nanosecond] n =
      [(n / 1000000, .millisecond), (n / 1000 % 1000, .microsecond), (n % 1000, .nanosecond)] := by
  have milli : TimeUnit.millisecond.nanoseconds = 1000000 := rfl
  have micro : TimeUnit.microsecond.nanoseconds = 1000 := rfl
  have nano : TimeUnit.nanosecond.nanoseconds = 1 := rfl
  have thousands : n % 1000000 / 1000 = n / 1000 % 1000 := by omega
  have ones : n % 1000000 % 1000 / 1 = n % 1000 := by omega
  rw [breakdown_cons, breakdown_cons, breakdown_cons, milli, micro, nano, thousands, ones]
  rfl

/-- The seconds are broken down first, and then the part below a second. -/
theorem breakdown_eq (d : Duration) :
    breakdown writtenUnits d.nanoseconds =
      [(d.seconds / 31557600, .year),
        (d.seconds % 31557600 / 2630016, .month),
        (d.seconds % 31557600 % 2630016 / 86400, .day),
        (d.seconds % 31557600 % 2630016 % 86400 / 3600, .hour),
        (d.seconds % 31557600 % 2630016 % 86400 % 3600 / 60, .minute),
        (d.seconds % 31557600 % 2630016 % 86400 % 60, .second),
        (d.subsecond / 1000000, .millisecond),
        (d.subsecond / 1000 % 1000, .microsecond),
        (d.subsecond % 1000, .nanosecond)] := by
  have below : d.subsecond < nanosecondsPerSecond := Nat.mod_lt _ (by decide)
  have whole : nanosecondsPerSecond * d.seconds + d.subsecond = d.nanoseconds :=
    Nat.div_add_mod d.nanoseconds nanosecondsPerSecond
  rw [← whole, writtenUnits, breakdown_seconds .year _ 31557600 _ _ rfl below,
    breakdown_seconds .month _ 2630016 _ _ rfl below,
    breakdown_seconds .day _ 86400 _ _ rfl below, breakdown_seconds .hour _ 3600 _ _ rfl below,
    breakdown_seconds .minute _ 60 _ _ rfl below, breakdown_seconds .second _ 1 _ _ rfl below,
    Nat.mod_one, Nat.mul_zero, Nat.zero_add, Nat.div_one, breakdown_subsecond,
    Nat.mod_mod_of_dvd _ (by decide : 60 ∣ 3600)]

/-! ## Naming the units -/

/-- The name of a unit after an amount. Units from a day on have a plural. -/
def TimeUnit.name (amount : Nat) : TimeUnit → String
  | .year => if amount = 1 then "year" else "years"
  | .month => if amount = 1 then "month" else "months"
  | .week => if amount = 1 then "week" else "weeks"
  | .day => if amount = 1 then "day" else "days"
  | .hour => "h"
  | .minute => "m"
  | .second => "s"
  | .millisecond => "ms"
  | .microsecond => "us"
  | .nanosecond => "ns"

/-- An amount with the name of its unit. -/
def spell (part : Nat × TimeUnit) : Nat × List Char := (part.1, (part.2.name part.1).toList)

theorem counted_eq (amount : Nat) :
    counted amount "year" = spell (amount, .year) ∧
      counted amount "month" = spell (amount, .month) ∧
      counted amount "day" = spell (amount, .day) := by
  unfold counted spell TimeUnit.name
  by_cases one : amount = 1
  · simp only [one, if_true, and_self]
  · simp only [one, if_false]
    exact ⟨rfl, rfl, rfl⟩

theorem amounts_eq_spell (d : Duration) :
    d.amounts = (breakdown writtenUnits d.nanoseconds).map spell := by
  simp only [amounts, counted_eq, breakdown_eq, List.map_cons, List.map_nil]
  rfl

/-- The amounts that the text of a duration names. -/
def row (d : Duration) : List (Nat × TimeUnit) :=
  (breakdown writtenUnits d.nanoseconds).filter (·.1 ≠ 0)

theorem filter_amounts (d : Duration) : d.amounts.filter (·.1 ≠ 0) = d.row.map spell := by
  rw [amounts_eq_spell, row, List.filter_map]
  rfl

end GridChess.Duration
