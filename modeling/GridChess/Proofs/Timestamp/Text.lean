import GridChess.Proofs.Calendar
import GridChess.Proofs.Outcome
import GridChess.Proofs.Text.Octets
import GridChess.Timestamp

/-!
# Reading timestamp texts

The text of a timestamp has a fixed shape: fourteen digits in groups of two, with separators.
Each group is read back as its number, and a text of this shape is read exactly if there is such a
date and such a time of day (`readOctets_textOf_eq_ok_iff`). Those of a timestamp give back the
second that it lies in (`read_toString`).
-/

set_option autoImplicit false

namespace GridChess.Timestamp

open Calendar

/-- The timestamp at the start of the second. -/
def truncated (t : Timestamp) : Timestamp where
  nanoseconds := t.nanoseconds / nanosecondsPerSecond * nanosecondsPerSecond
  lt_limit := Nat.lt_of_le_of_lt (Nat.div_mul_le_self _ _) t.lt_limit

theorem ext (a b : Timestamp) (same : a.nanoseconds = b.nanoseconds) : a = b := by
  cases a
  cases b
  cases same
  rfl

theorem ofInstant?_eq_some_iff (i : Instant) (t : Timestamp) :
    ofInstant? i = some t ↔ t.nanoseconds = i.nanoseconds.toNat := by
  simp only [ofInstant?]
  split
  · rw [Option.some.injEq]
    exact ⟨fun same => by rw [← same], fun same => ext _ t same.symm⟩
  · rename_i late
    refine iff_of_false (fun found => by cases found) fun same => late ?_
    rw [← same]
    exact t.lt_limit

theorem ofInstant?_natCast (n : Nat) (t : Timestamp) :
    ofInstant? ⟨n⟩ = some t ↔ t.nanoseconds = n := ofInstant?_eq_some_iff ⟨n⟩ t

theorem ofInstant?_instant (t : Timestamp) : ofInstant? t.instant = some t :=
  (ofInstant?_natCast _ t).mpr rfl

/-! ## Groups of digits -/

theorem digit_octet (d : Nat) (small : d < 10) : digit (octet (Nat.digitChar d)) = .ok d := by
  have all : ∀ d < 10, (octet '0' ≤ octet (Nat.digitChar d) ∧
      octet (Nat.digitChar d) ≤ octet '9') ∧ (octet (Nat.digitChar d)).toNat - 48 = d := by decide
  obtain ⟨within, value⟩ := all d small
  unfold digit
  rw [if_pos within, value]

theorem twoDigits_octets (n : Nat) (small : n < 100) :
    twoDigits (octet (Nat.digitChar (n / 10))) (octet (Nat.digitChar (n % 10))) = .ok n := by
  unfold twoDigits
  rw [digit_octet (n / 10) (by omega), digit_octet (n % 10) (Nat.mod_lt _ (by decide))]
  exact congrArg Except.ok (Nat.div_add_mod n 10)

theorem basic_digitChar (d : Nat) (small : d < 10) : (Nat.digitChar d).toNat < 128 := by
  have all : ∀ d < 10, (Nat.digitChar d).toNat < 128 := by decide
  exact all d small

theorem basic_twoDigits (n : Nat) (small : n < 100) :
    ∀ c ∈ Text.Numeral.twoDigits n, c.toNat < 128 := by
  have tens := basic_digitChar (n / 10) (by omega)
  have ones := basic_digitChar (n % 10) (Nat.mod_lt _ (by decide))
  unfold Text.Numeral.twoDigits
  simp only [List.forall_mem_cons]
  exact ⟨tens, ones, by simp⟩

/-! ## Dates with times of day -/

/-- The text of a date and a time of day. -/
def textOf (date : Date) (hour minute second : Nat) : List Char :=
  let two := Text.Numeral.twoDigits
  two (date.year / 100) ++ two (date.year % 100) ++ '-' :: two date.month ++
    '-' :: two date.day ++ 'T' :: two hour ++ ':' :: two minute ++ ':' :: two second ++ ['Z']

/-- Numbers that the digits of a text of this form can stand for. -/
structure IsPadded (date : Date) (hour minute second : Nat) : Prop where
  year : date.year < 10000
  month : date.month < 100
  day : date.day < 100
  hour : hour < 100
  minute : minute < 100
  second : second < 100

/-- Dates from 1970 on with times of day. Any minute may end with a leap second. -/
structure IsOnClock (date : Date) (hour minute second : Nat) : Prop where
  from1970 : firstYear ≤ date.year
  real : date.isReal = true
  hour : hour ≤ 23
  minute : minute ≤ 59
  second : second ≤ 60

/-- The seconds from the start of 1970. A leap second counts as the second before it. -/
def secondsUntil (date : Date) (hour minute second : Nat) : Nat :=
  date.toDays * secondsPerDay + 3600 * hour + 60 * minute + min second 59

theorem basic_textOf (date : Date) (hour minute second : Nat)
    (padded : IsPadded date hour minute second) :
    ∀ c ∈ textOf date hour minute second, c.toNat < 128 := by
  have year := padded.year
  have century := basic_twoDigits (date.year / 100) (by omega)
  have inCentury := basic_twoDigits (date.year % 100) (by omega)
  have monthly := basic_twoDigits date.month padded.month
  have daily := basic_twoDigits date.day padded.day
  have hourly := basic_twoDigits hour padded.hour
  have minutely := basic_twoDigits minute padded.minute
  have secondly := basic_twoDigits second padded.second
  unfold textOf
  simp only [List.forall_mem_append, List.forall_mem_cons]
  exact ⟨⟨⟨⟨⟨⟨⟨century, inCentury⟩, by decide, monthly⟩, by decide, daily⟩, by decide, hourly⟩,
    by decide, minutely⟩, by decide, secondly⟩, by decide, by simp⟩

/-- A text of this form is read exactly if there is such a date and such a time of day, as the
second that they stand for. -/
theorem readOctets_textOf_eq_ok_iff (date : Date) (hour minute second : Nat)
    (padded : IsPadded date hour minute second) (t : Timestamp) :
    readOctets (Text.octetsOf (textOf date hour minute second)) = .ok t ↔
      IsOnClock date hour minute second ∧
        t.nanoseconds = secondsUntil date hour minute second * nanosecondsPerSecond := by
  have year := padded.year
  have mapped : Text.octetsOf (textOf date hour minute second) =
      (textOf date hour minute second).map octet :=
    Text.octetsOf_basic _ (basic_textOf date hour minute second padded)
  have century := twoDigits_octets (date.year / 100) (by omega)
  have inCentury := twoDigits_octets (date.year % 100) (by omega)
  have monthly := twoDigits_octets date.month padded.month
  have daily := twoDigits_octets date.day padded.day
  have hourly := twoDigits_octets hour padded.hour
  have minutely := twoDigits_octets minute padded.minute
  have secondly := twoDigits_octets second padded.second
  have whole : (⟨100 * (date.year / 100) + date.year % 100, date.month, date.day⟩ : Date) =
      date := by
    rw [Nat.div_add_mod]
  have ending_zulu : ending [octet 'Z'] = .ok 0 := rfl
  rw [mapped]
  simp only [textOf, Text.Numeral.twoDigits, List.cons_append, List.nil_append, List.map_cons,
    List.map_nil, readOctets, century, inCentury, monthly, daily, hourly, minutely, secondly]
  rw [if_neg (by decide), ok_bind, ok_bind, ok_bind, ok_bind, ok_bind, ok_bind, ok_bind, whole,
    Nat.div_add_mod]
  by_cases late : date.year < firstYear ∨ 23 < hour ∨ 59 < minute ∨ 60 < second
  · rw [if_pos late]
    refine iff_of_false (fun refused => by cases refused) ?_
    rintro ⟨⟨from1970, _, hours, minutes, seconds⟩, _⟩
    omega
  · rw [if_neg late]
    by_cases real : date.isReal = true
    · have clock : IsOnClock date hour minute second :=
        ⟨by omega, real, by omega, by omega, by omega⟩
      rw [if_neg (not_not_intro real), ending_zulu, ok_bind, Int.natCast_zero, Int.add_zero,
        ← Int.natCast_mul, and_iff_right clock, secondsUntil, ← ofInstant?_natCast]
      generalize ofInstant? _ = found
      cases found with
      | none => exact iff_of_false (fun refused => by cases refused) (fun none => by cases none)
      | some u =>
        rw [Option.some.injEq]
        exact ⟨Except.ok.inj, congrArg Except.ok⟩
    · rw [if_pos real]
      refine iff_of_false (fun refused => by cases refused) ?_
      rintro ⟨clock, _⟩
      exact real clock.real

/-- A leap second is read as the second before it. -/
example : read "2016-12-31T23:59:60Z" = .ok ⟨1483228799 * 1000000000, by decide⟩ := rfl

/-! ## The text of a timestamp -/

/-- The seconds of a timestamp, split into the date and the time of day. -/
theorem onClock_ofDays (seconds : Nat) :
    IsOnClock (Date.ofDays (seconds / secondsPerDay)) (seconds % secondsPerDay / 3600)
      (seconds % secondsPerDay / 60 % 60) (seconds % secondsPerDay % 60) := by
  have inDay : seconds % secondsPerDay < 86400 := Nat.mod_lt _ (by decide)
  exact {
    from1970 := firstYear_le_ofDays _
    real := isReal_ofDays _
    hour := by omega
    minute := by omega
    second := by omega }

theorem padded_ofDays (seconds : Nat) (early : seconds < 253402300800) :
    IsPadded (Date.ofDays (seconds / secondsPerDay)) (seconds % secondsPerDay / 3600)
      (seconds % secondsPerDay / 60 % 60) (seconds % secondsPerDay % 60) := by
  have day : seconds / secondsPerDay < 2932897 :=
    (Nat.div_lt_iff_lt_mul (by decide)).mpr early
  have clock := onClock_ofDays seconds
  exact {
    year := year_ofDays_lt _ day
    month := Nat.lt_of_le_of_lt (month_ofDays_le _) (by decide)
    day := Nat.lt_of_le_of_lt (day_ofDays_le _) (by decide)
    hour := Nat.lt_of_le_of_lt clock.hour (by decide)
    minute := Nat.lt_of_le_of_lt clock.minute (by decide)
    second := Nat.lt_of_le_of_lt clock.second (by decide) }

theorem sum_of_timeOfDay (inDay : Nat) :
    3600 * (inDay / 3600) + 60 * (inDay / 60 % 60) + min (inDay % 60) 59 = inDay := by
  omega

theorem secondsUntil_ofDays (seconds : Nat) :
    secondsUntil (Date.ofDays (seconds / secondsPerDay)) (seconds % secondsPerDay / 3600)
      (seconds % secondsPerDay / 60 % 60) (seconds % secondsPerDay % 60) = seconds := by
  have whole := Nat.div_add_mod' seconds secondsPerDay
  have parts := sum_of_timeOfDay (seconds % secondsPerDay)
  rw [secondsUntil, toDays_ofDays]
  omega

theorem chars_eq (t : Timestamp) :
    t.chars =
      textOf (Date.ofDays (t.nanoseconds / nanosecondsPerSecond / secondsPerDay))
        (t.nanoseconds / nanosecondsPerSecond % secondsPerDay / 3600)
        (t.nanoseconds / nanosecondsPerSecond % secondsPerDay / 60 % 60)
        (t.nanoseconds / nanosecondsPerSecond % secondsPerDay % 60) := rfl

theorem toList_toString (t : Timestamp) : (toString t).toList = t.chars := String.toList_ofList

/-- The text of a timestamp is read back as the second that it lies in. -/
theorem read_toString (t : Timestamp) : read (toString t) = .ok t.truncated := by
  have early : t.nanoseconds / nanosecondsPerSecond < 253402300800 :=
    (Nat.div_lt_iff_lt_mul (by decide)).mpr t.lt_limit
  have clock := onClock_ofDays (t.nanoseconds / nanosecondsPerSecond)
  unfold read
  rw [Text.octets, toList_toString, chars_eq,
    readOctets_textOf_eq_ok_iff _ _ _ _ (padded_ofDays _ early), secondsUntil_ofDays]
  exact ⟨clock, rfl⟩

theorem length_chars (t : Timestamp) : t.chars.length = 20 := rfl

end GridChess.Timestamp
