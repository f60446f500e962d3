import GridChess.Proofs.Timestamp.Text

/-!
# Timestamps and their texts

Every instant before the year 10000 has a text, and the text is read back as the second that the
instant lies in, or as the start of 1970 if it is earlier than that. The other way round, a text of
the form that is written, if it can be read, is the text of the timestamp that it is read as, unless
it ends in a leap second. Timestamps do not tell that from the second before
(`texts_keep_seconds`).
-/

set_option autoImplicit false

namespace GridChess

namespace Text.Numeral

theorem exists_digitChar (c : Char) (digit : isDigit c = true) :
    ∃ d < 10, c = Nat.digitChar d := by
  unfold isDigit at digit
  rw [Bool.and_eq_true, decide_eq_true_eq, decide_eq_true_eq] at digit
  have low : 48 ≤ c.toNat := digit.1
  have high : c.toNat ≤ 57 := digit.2
  refine ⟨c.toNat - 48, by omega, Char.toNat_inj.mp ?_⟩
  rw [Nat.toNat_digitChar_of_lt_ten (by omega)]
  omega

theorem exists_twoDigits (tens ones : Char) (ten : isDigit tens = true)
    (one : isDigit ones = true) : ∃ n < 100, [tens, ones] = twoDigits n := by
  obtain ⟨t, tensSmall, rfl⟩ := exists_digitChar tens ten
  obtain ⟨o, onesSmall, rfl⟩ := exists_digitChar ones one
  refine ⟨10 * t + o, by omega, ?_⟩
  have quotient : (10 * t + o) / 10 = t := by omega
  have remainder : (10 * t + o) % 10 = o := by omega
  rw [twoDigits, quotient, remainder]

theorem value_twoDigits (n : Nat) (small : n < 100) : value (twoDigits n) = n := by
  simp only [twoDigits, value, List.foldl_cons, List.foldl_nil]
  rw [digitValue_digitChar (by omega), digitValue_digitChar (Nat.mod_lt _ (by decide))]
  omega

end Text.Numeral

/-- Midnight at the start of a date. -/
def Instant.startOf (date : Calendar.Date) : Instant :=
  ⟨(date.toDays * Timestamp.secondsPerDay * nanosecondsPerSecond : Nat)⟩

namespace Timestamp

open Calendar

/-! ## Texts of the form that is written -/

/-- Digits stand where the shape has a zero, and every other character is that of the shape. -/
def hasShape : List Char → List Char → Bool
  | [], [] => true
  | mark :: shape, c :: text =>
    (if mark = '0' then Text.Numeral.isDigit c else c == mark) && hasShape shape text
  | _, _ => false

/-- The shape of the texts of timestamps. -/
def utcShape : List Char := "0000-00-00T00:00:00Z".toList

theorem utcShape_eq :
    utcShape = ['0', '0', '0', '0', '-', '0', '0', '-', '0', '0', 'T', '0', '0', ':', '0', '0',
      ':', '0', '0', 'Z'] := by decide

/-- The second within the minute. -/
def secondOf (text : String) : Nat := Text.Numeral.value ((text.toList.drop 17).take 2)

theorem exists_cons_of_hasShape (mark : Char) (shape text : List Char)
    (shaped : hasShape (mark :: shape) text = true) :
    ∃ c rest, text = c :: rest ∧ (if mark = '0' then Text.Numeral.isDigit c else c == mark) = true ∧
      hasShape shape rest = true := by
  cases text with
  | nil => exact absurd shaped Bool.false_ne_true
  | cons c rest => exact ⟨c, rest, rfl, (Bool.and_eq_true _ _).mp shaped⟩

theorem exists_pair (shape text : List Char) (shaped : hasShape ('0' :: '0' :: shape) text = true) :
    ∃ n rest, n < 100 ∧ text = Text.Numeral.twoDigits n ++ rest ∧ hasShape shape rest = true := by
  obtain ⟨tens, others, rfl, ten, ending⟩ := exists_cons_of_hasShape _ _ text shaped
  obtain ⟨ones, rest, rfl, one, shapedRest⟩ := exists_cons_of_hasShape _ _ others ending
  obtain ⟨n, small, digits⟩ := Text.Numeral.exists_twoDigits tens ones ten one
  exact ⟨n, rest, small, by rw [← digits]; rfl, shapedRest⟩

/-- Two digits with the separator after them. -/
theorem exists_group (mark : Char) (shape text : List Char) (other : mark ≠ '0')
    (shaped : hasShape ('0' :: '0' :: mark :: shape) text = true) :
    ∃ n rest, n < 100 ∧ text = Text.Numeral.twoDigits n ++ mark :: rest ∧
      hasShape shape rest = true := by
  obtain ⟨n, others, small, rfl, ending⟩ := exists_pair _ text shaped
  obtain ⟨c, rest, rfl, same, shapedRest⟩ := exists_cons_of_hasShape mark shape others ending
  rw [if_neg other, beq_iff_eq] at same
  exact ⟨n, rest, small, by rw [same], shapedRest⟩

/-- A text of the shape spells out a date and a time of day, which need not exist. -/
theorem exists_textOf (text : List Char) (shaped : hasShape utcShape text = true) :
    ∃ date hour minute second, IsPadded date hour minute second ∧
      text = textOf date hour minute second := by
  rw [utcShape_eq] at shaped
  -- The year is read as two pairs, and every later pair ends with its separator.
  obtain ⟨century, years, centurySmall, rfl, yearly⟩ := exists_pair _ text shaped
  obtain ⟨inCentury, months, inCenturySmall, rfl, monthly⟩ :=
    exists_group '-' _ years (by decide) yearly
  obtain ⟨month, days, monthSmall, rfl, daily⟩ := exists_group '-' _ months (by decide) monthly
  obtain ⟨day, hours, daySmall, rfl, hourly⟩ := exists_group 'T' _ days (by decide) daily
  obtain ⟨hour, minutes, hourSmall, rfl, minutely⟩ := exists_group ':' _ hours (by decide) hourly
  obtain ⟨minute, seconds, minuteSmall, rfl, secondly⟩ :=
    exists_group ':' _ minutes (by decide) minutely
  obtain ⟨second, rest, secondSmall, rfl, ended⟩ :=
    exists_group 'Z' _ seconds (by decide) secondly
  have quotient : (100 * century + inCentury) / 100 = century := by omega
  have remainder : (100 * century + inCentury) % 100 = inCentury := by omega
  refine ⟨⟨100 * century + inCentury, month, day⟩, hour, minute, second,
    ⟨by simp only; omega, monthSmall, daySmall, hourSmall, minuteSmall, secondSmall⟩, ?_⟩
  cases rest with
  | nil => simp only [textOf, quotient, remainder, List.append_assoc, List.cons_append]
  | cons c others => cases ended

theorem secondOf_textOf (text : String) (date : Date) (hour minute second : Nat)
    (small : second < 100) (spelt : text.toList = textOf date hour minute second) :
    secondOf text = second := by
  have digits : ((textOf date hour minute second).drop 17).take 2 =
      Text.Numeral.twoDigits second := rfl
  rw [secondOf, spelt, digits, Text.Numeral.value_twoDigits second small]

/-! ## Writing what has been read -/

theorem secondsUntil_div (date : Date) (hour minute second : Nat)
    (clock : IsOnClock date hour minute second) :
    secondsUntil date hour minute second / secondsPerDay = date.toDays ∧
      secondsUntil date hour minute second % secondsPerDay =
        3600 * hour + 60 * minute + min second 59 := by
  have hours := clock.hour
  have minutes := clock.minute
  unfold secondsUntil secondsPerDay
  omega

/-- The timestamp of a date and a time of day is written as these again, without leap seconds. -/
theorem chars_of_onClock (date : Date) (hour minute second : Nat) (t : Timestamp)
    (clock : IsOnClock date hour minute second)
    (stamped : t.nanoseconds = secondsUntil date hour minute second * nanosecondsPerSecond) :
    t.chars = textOf date hour minute (min second 59) := by
  obtain ⟨days, inDay⟩ := secondsUntil_div date hour minute second clock
  have minutes := clock.minute
  have seconds : t.nanoseconds / nanosecondsPerSecond = secondsUntil date hour minute second := by
    rw [stamped, Nat.mul_div_cancel _ (by decide)]
  have hourly : (3600 * hour + 60 * minute + min second 59) / 3600 = hour := by omega
  have minutely : (3600 * hour + 60 * minute + min second 59) / 60 % 60 = minute := by omega
  have secondly : (3600 * hour + 60 * minute + min second 59) % 60 = min second 59 := by omega
  rw [chars_eq, seconds, days, inDay, hourly, minutely, secondly,
    ofDays_toDays date clock.from1970 clock.real]

/-- A text of the shape is written again as it was read, unless it ends in a leap second. -/
theorem toString_eq_iff (text : String) (t : Timestamp)
    (shaped : hasShape utcShape text.toList = true) (found : read text = .ok t) :
    toString t = text ↔ secondOf text ≤ 59 := by
  obtain ⟨date, hour, minute, second, padded, spelt⟩ := exists_textOf text.toList shaped
  rw [read, Text.octets, spelt, readOctets_textOf_eq_ok_iff _ _ _ _ padded] at found
  have written := chars_of_onClock date hour minute second t found.1 found.2
  have shown : secondOf text = second :=
    secondOf_textOf text date hour minute second padded.second spelt
  rw [shown]
  constructor
  · intro same
    -- The text of a timestamp never shows a leap second.
    have rounded : secondOf (toString t) = min second 59 :=
      secondOf_textOf _ date hour minute _ (by omega) (by rw [toList_toString, written])
    rw [same, shown] at rounded
    omega
  · intro regular
    rw [Nat.min_eq_left regular, ← spelt, ← toList_toString] at written
    exact String.toList_inj.mp written

/-! ## Instants with a text -/

theorem startOf_10000 :
    (Instant.startOf ⟨10000, 1, 1⟩).nanoseconds = 253402300800 * 1000000000 := by
  have year : 10000 = firstYear + 8030 := rfl
  rw [Instant.startOf, year, toDays_newYear, daysInYears_8030]
  rfl

theorem exists_ofInstant?_iff (moment : Instant) :
    (∃ t, ofInstant? moment = some t) ↔
      moment.nanoseconds < (Instant.startOf ⟨10000, 1, 1⟩).nanoseconds := by
  rw [startOf_10000]
  constructor
  · rintro ⟨t, found⟩
    have limit := t.lt_limit
    have same := (ofInstant?_eq_some_iff moment t).mp found
    omega
  · intro early
    exact ⟨⟨moment.nanoseconds.toNat, by omega⟩, (ofInstant?_eq_some_iff moment _).mpr rfl⟩

/-- Rounding an instant down after it has been moved to the start of 1970 if it lies before. -/
theorem instant_truncated (moment : Instant) (t : Timestamp) (found : ofInstant? moment = some t) :
    t.truncated.instant.nanoseconds =
      max Instant.epoch.nanoseconds moment.truncated.nanoseconds := by
  have same := (ofInstant?_eq_some_iff moment t).mp found
  change ((t.nanoseconds / nanosecondsPerSecond * nanosecondsPerSecond : Nat) : Int) =
    max 0 (moment.nanoseconds / nanosecondsPerSecond * nanosecondsPerSecond)
  rw [same]
  simp only [nanosecondsPerSecond]
  omega

/-- An instant has a text exactly if it lies before the year 10000. The text is read as the later
of the start of 1970 and the start of the second of the instant. A text of the same form that can be
read at all is the text of what it is read as, up to leap seconds. -/
theorem texts_keep_seconds :
    (∀ moment : Instant, moment.nanoseconds < (Instant.startOf ⟨10000, 1, 1⟩).nanoseconds ↔
      ∃ t back, ofInstant? moment = some t ∧ read (toString t) = .ok back ∧
        back.instant.nanoseconds = max Instant.epoch.nanoseconds moment.truncated.nanoseconds) ∧
    ∀ (text : String) (t : Timestamp), hasShape utcShape text.toList = true → read text = .ok t →
      (toString t = text ↔ secondOf text ≤ 59) := by
  refine ⟨fun moment => ?_, toString_eq_iff⟩
  rw [← exists_ofInstant?_iff]
  constructor
  · rintro ⟨t, found⟩
    exact ⟨t, t.truncated, found, read_toString t, instant_truncated moment t found⟩
  · rintro ⟨t, _, found, _⟩
    exact ⟨t, found⟩

/-- The last second of a leap day, and the last instant before 1970. -/
theorem texts_keep_seconds_leapDay :
    (∃ t back, ofInstant? ⟨-1⟩ = some t ∧ read (toString t) = .ok back ∧
      back.instant.nanoseconds = max 0 (-1000000000)) ∧
    hasShape utcShape "2024-02-29T23:59:59Z".toList = true ∧
      ∃ t, read "2024-02-29T23:59:59Z" = .ok t ∧ secondOf "2024-02-29T23:59:59Z" ≤ 59 ∧
        toString t = "2024-02-29T23:59:59Z" := by
  have early : (-1 : Int) < (Instant.startOf ⟨10000, 1, 1⟩).nanoseconds := by
    rw [startOf_10000]
    decide
  have shaped : hasShape utcShape "2024-02-29T23:59:59Z".toList = true := by decide
  have found : read "2024-02-29T23:59:59Z" = .ok ⟨1709251199 * 1000000000, by decide⟩ := rfl
  have regular : secondOf "2024-02-29T23:59:59Z" ≤ 59 := by decide
  exact ⟨(texts_keep_seconds.1 ⟨-1⟩).mp early, shaped, _, found, regular,
    (texts_keep_seconds.2 _ _ shaped found).mpr regular⟩

end Timestamp

end GridChess
