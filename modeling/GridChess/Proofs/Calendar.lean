import GridChess.Calendar
import Mathlib.Order.Monotone.Basic

/-!
# Dates and day numbers

Every day number is the day number of the date that it gives (`toDays_ofDays`), that date exists
in the calendar (`isReal_ofDays`), and since four hundred years always have the same number of
days, the first day numbers are known to lie before the year 10000 (`year_ofDays_lt`). A day number
splits into years, months and days in one way only, so every date that exists is the one that its
day number gives (`ofDays_toDays`).
-/

set_option autoImplicit false

namespace GridChess.Calendar

/-! ## Years -/

theorem daysInYears_succ (n : Nat) :
    daysInYears (n + 1) = daysInYears n + yearLength (firstYear + n) := rfl

theorem yearAfter_spec (year days n : Nat) (counted : year = firstYear + n) :
    ∃ m r, yearAfter year days = (firstYear + m, r) ∧ r < yearLength (firstYear + m) ∧
      daysInYears n + days = daysInYears m + r := by
  induction year, days using yearAfter.induct generalizing n with
  | case1 year days short =>
    rw [yearAfter, if_pos short]
    exact ⟨n, days, by rw [counted], by rwa [counted] at short, rfl⟩
  | case2 year days long ih =>
    rw [yearAfter, if_neg long]
    obtain ⟨m, r, after, inYear, sum⟩ := ih (n + 1) (by omega)
    refine ⟨m, r, after, inYear, ?_⟩
    rw [← sum, daysInYears_succ, ← counted]
    omega

theorem monotone_daysInYears : Monotone daysInYears :=
  monotone_nat_of_le_succ fun _ => Nat.le_add_right _ _

theorem isLeap_add (year : Nat) : isLeap (year + 400) = isLeap year := by
  have four : (year + 400) % 4 = year % 4 := by omega
  have hundred : (year + 400) % 100 = year % 100 := by omega
  have fourHundred : (year + 400) % 400 = year % 400 := by omega
  unfold isLeap
  rw [four, hundred, fourHundred]

theorem daysInYears_add (n : Nat) : daysInYears (n + 400) = daysInYears n + 146097 := by
  induction n with
  | zero => decide +kernel
  | succ n ih =>
    have length : yearLength (firstYear + (n + 400)) = yearLength (firstYear + n) := by
      unfold yearLength
      rw [← Nat.add_assoc, isLeap_add]
    rw [Nat.add_right_comm, daysInYears_succ (n + 400), daysInYears_succ n, ih, length,
      Nat.add_right_comm]

theorem daysInYears_mul (count n : Nat) :
    daysInYears (n + 400 * count) = daysInYears n + 146097 * count := by
  induction count with
  | zero => rfl
  | succ count ih =>
    rw [Nat.mul_succ, ← Nat.add_assoc, daysInYears_add, ih]
    omega

/-- The days before the year 10000. -/
theorem daysInYears_8030 : daysInYears 8030 = 2932897 := by
  have first : daysInYears 30 = 10957 := by decide
  have whole := daysInYears_mul 20 30
  rw [first] at whole
  exact whole

/-! ## Months -/

theorem total_cons (length : Nat) (lengths : List Nat) :
    total (length :: lengths) = length + total lengths := rfl

theorem monthAfter_spec (lengths : List Nat) (month days : Nat) (inYear : days < total lengths) :
    ∃ k r length, monthAfter lengths month days = (month + k, r) ∧ lengths[k]? = some length ∧
      r < length ∧ total (lengths.take k) + r = days := by
  induction lengths generalizing month days with
  | nil => exact absurd inYear (Nat.not_lt_zero _)
  | cons length lengths ih =>
    rw [monthAfter]
    by_cases short : days < length
    · rw [if_pos short]
      exact ⟨0, days, length, rfl, rfl, short, Nat.zero_add days⟩
    · rw [total_cons] at inYear
      obtain ⟨k, r, found, after, known, inMonth, sum⟩ :=
        ih (month + 1) (days - length) (by omega)
      rw [if_neg short]
      refine ⟨k + 1, r, found, ?_, known, inMonth, ?_⟩
      · rw [after, Nat.add_assoc, Nat.add_comm 1 k]
      · rw [List.take_succ_cons, total_cons]
        omega

theorem total_monthLengths (year : Nat) : total (monthLengths year) = yearLength year := by
  unfold monthLengths yearLength
  cases isLeap year with
  | true => rfl
  | false => rfl

theorem length_monthLengths (year : Nat) : (monthLengths year).length = 12 := rfl

/-! ## Days -/

/-- The number of whole years and months before a day, and what is left. -/
theorem ofDays_spec (days : Nat) :
    ∃ m k r length, Date.ofDays days = ⟨firstYear + m, 1 + k, r + 1⟩ ∧
      (monthLengths (firstYear + m))[k]? = some length ∧ r < length ∧
      daysInYears m + total ((monthLengths (firstYear + m)).take k) + r = days := by
  obtain ⟨m, inYear, year, fits, yearSum⟩ := yearAfter_spec firstYear days 0 rfl
  rw [← total_monthLengths] at fits
  obtain ⟨k, r, length, month, known, inMonth, monthSum⟩ :=
    monthAfter_spec (monthLengths (firstYear + m)) 1 inYear fits
  have none : daysInYears 0 = 0 := rfl
  refine ⟨m, k, r, length, ?_, known, inMonth, by omega⟩
  unfold Date.ofDays
  simp only [year, month]

theorem isReal_iff (date : Date) :
    date.isReal = true ↔ 0 < date.day ∧ date.day ≤ monthLength date.year date.month := by
  unfold Date.isReal
  rw [Bool.and_eq_true, decide_eq_true_eq, decide_eq_true_eq]

theorem isReal_ofDays (days : Nat) : (Date.ofDays days).isReal = true := by
  obtain ⟨m, k, r, length, date, known, inMonth, _⟩ := ofDays_spec days
  have lasts : monthLength (firstYear + m) (1 + k) = length := by
    unfold monthLength
    rw [if_neg (by omega), Nat.add_sub_cancel_left, known, Option.getD_some]
  rw [date, isReal_iff, lasts]
  exact ⟨Nat.succ_pos r, inMonth⟩

/-- A date gives the day number that it was made from. -/
theorem toDays_ofDays (days : Nat) : (Date.ofDays days).toDays = days := by
  obtain ⟨m, k, r, length, date, _, _, sum⟩ := ofDays_spec days
  rw [date]
  unfold Date.toDays
  simp only [Nat.add_sub_cancel_left, Nat.add_sub_cancel]
  exact sum

theorem firstYear_le_ofDays (days : Nat) : firstYear ≤ (Date.ofDays days).year := by
  obtain ⟨m, _, _, _, date, _⟩ := ofDays_spec days
  rw [date]
  exact Nat.le_add_right _ _

theorem year_ofDays_lt (days : Nat) (early : days < 2932897) :
    (Date.ofDays days).year < 10000 := by
  obtain ⟨m, k, r, length, date, _, _, sum⟩ := ofDays_spec days
  rw [date]
  refine Nat.lt_of_not_le fun late => ?_
  have order : 8030 ≤ m := by
    simp only [firstYear] at late
    omega
  have before := monotone_daysInYears order
  rw [daysInYears_8030] at before
  omega

theorem month_ofDays_le (days : Nat) : (Date.ofDays days).month ≤ 12 := by
  obtain ⟨m, k, r, length, date, known, _⟩ := ofDays_spec days
  have within := (List.getElem?_eq_some_iff.mp known).1
  rw [length_monthLengths] at within
  rw [date]
  change 1 + k ≤ 12
  omega

theorem monthLength_le (year month : Nat) : monthLength year month ≤ 31 := by
  have short : ∀ length ∈ monthLengths year, length ≤ 31 := by
    unfold monthLengths
    cases isLeap year with
    | true => decide
    | false => decide
  unfold monthLength
  split
  · decide
  · cases known : (monthLengths year)[month - 1]? with
    | none => decide
    | some length => exact short length (List.mem_of_getElem? known)

theorem day_ofDays_le (days : Nat) : (Date.ofDays days).day ≤ 31 := by
  have real := (isReal_iff _).mp (isReal_ofDays days)
  exact Nat.le_trans real.2 (monthLength_le _ _)

/-! ## Dates from their day numbers -/

theorem toDays_newYear (n : Nat) : Date.toDays ⟨firstYear + n, 1, 1⟩ = daysInYears n := by
  rw [Date.toDays, Nat.add_sub_cancel_left]
  rfl

/-- A sum of an ascending start and less than the distance to the next one has one split. -/
theorem split_unique (starts : Nat → Nat) (ascending : Monotone starts) (i j r s : Nat)
    (within : starts i + r < starts (i + 1)) (within' : starts j + s < starts (j + 1))
    (same : starts i + r = starts j + s) : i = j ∧ r = s := by
  have forwards : i < j + 1 := ascending.reflect_lt (by omega)
  have backwards : j < i + 1 := ascending.reflect_lt (by omega)
  obtain rfl : i = j := by omega
  exact ⟨rfl, Nat.add_left_cancel same⟩

/-- The days in the months of a year before the one at this place. -/
def daysInMonths (year k : Nat) : Nat := total ((monthLengths year).take k)

theorem total_append (before after : List Nat) :
    total (before ++ after) = total before + total after := by
  induction before with
  | nil => exact (Nat.zero_add _).symm
  | cons length before ih => rw [List.cons_append, total_cons, total_cons, ih, Nat.add_assoc]

theorem daysInMonths_succ (year k : Nat) :
    daysInMonths year (k + 1) = daysInMonths year k + monthLength year (k + 1) := by
  unfold daysInMonths monthLength
  rw [List.take_add_one, total_append, if_neg (Nat.succ_ne_zero k), Nat.add_sub_cancel]
  cases (monthLengths year)[k]? with
  | none => rfl
  | some length => rfl

theorem monotone_daysInMonths (year : Nat) : Monotone (daysInMonths year) :=
  monotone_nat_of_le_succ fun k => by
    rw [daysInMonths_succ]
    exact Nat.le_add_right _ _

theorem daysInMonths_le (year k : Nat) : daysInMonths year k ≤ yearLength year := by
  have parts := total_append ((monthLengths year).take k) ((monthLengths year).drop k)
  rw [List.take_append_drop, total_monthLengths] at parts
  rw [parts]
  exact Nat.le_add_right _ _

/-- The years, months and days that have passed before a date, each less than one of the next. -/
theorem exists_passed (date : Date) (from1970 : firstYear ≤ date.year)
    (real : date.isReal = true) :
    ∃ m k r, date = ⟨firstYear + m, k + 1, r + 1⟩ ∧
      daysInYears m + (daysInMonths date.year k + r) < daysInYears (m + 1) ∧
      daysInMonths date.year k + r < daysInMonths date.year (k + 1) ∧
      date.toDays = daysInYears m + (daysInMonths date.year k + r) := by
  obtain ⟨year, month, day⟩ := date
  obtain ⟨positive, fits⟩ := (isReal_iff _).mp real
  obtain ⟨m, rfl⟩ := Nat.exists_eq_add_of_le from1970
  cases month with
  | zero => exact absurd (Nat.lt_of_lt_of_le positive fits) (Nat.lt_irrefl 0)
  | succ k =>
    cases day with
    | zero => exact absurd positive (Nat.lt_irrefl 0)
    | succ r =>
      have inMonth : daysInMonths (firstYear + m) k + r < daysInMonths (firstYear + m) (k + 1) := by
        rw [daysInMonths_succ]
        exact Nat.add_lt_add_left fits _
      have inYear := Nat.lt_of_lt_of_le inMonth (daysInMonths_le (firstYear + m) (k + 1))
      refine ⟨m, k, r, rfl, ?_, inMonth, ?_⟩
      · rw [daysInYears_succ]
        exact Nat.add_lt_add_left inYear _
      · unfold Date.toDays daysInMonths
        rw [Nat.add_sub_cancel_left]
        exact Nat.add_assoc _ _ _

/-- Different dates have different day numbers. -/
theorem toDays_injective (a b : Date) (from1970 : firstYear ≤ a.year)
    (from1970' : firstYear ≤ b.year) (real : a.isReal = true) (real' : b.isReal = true)
    (same : a.toDays = b.toDays) : a = b := by
  obtain ⟨m, k, r, rfl, inYear, inMonth, sum⟩ := exists_passed a from1970 real
  obtain ⟨m', k', r', rfl, inYear', inMonth', sum'⟩ := exists_passed b from1970' real'
  rw [sum, sum'] at same
  -- The years first, since the lengths of months depend on them.
  obtain ⟨rfl, passed⟩ :=
    split_unique daysInYears monotone_daysInYears m m' _ _ inYear inYear' same
  obtain ⟨rfl, rfl⟩ :=
    split_unique _ (monotone_daysInMonths _) k k' r r' inMonth inMonth' passed
  rfl

/-- A date is the one that its day number gives. -/
theorem ofDays_toDays (date : Date) (from1970 : firstYear ≤ date.year)
    (real : date.isReal = true) : Date.ofDays date.toDays = date :=
  toDays_injective _ date (firstYear_le_ofDays _) from1970 (isReal_ofDays _) real
    (toDays_ofDays _)

end GridChess.Calendar
