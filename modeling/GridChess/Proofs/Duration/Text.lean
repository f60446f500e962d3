import GridChess.Proofs.Duration.Breakdown
import GridChess.Proofs.Outcome

/-!
# Reading duration texts

The text of a duration is a row of amounts, each a number and a unit. Scanning it from left to
right adds the amounts up one after the other, and since no partial sum exceeds the duration
itself, no step is refused: every duration is read back from its own text (`read_toString`). So no
two durations have the same text (`texts_keep_durations`).
-/

set_option autoImplicit false

namespace GridChess.Duration

open GridChess.Text

/-! ## Scanning one amount -/

theorem word_of_lt (n : Nat) (small : n < Numeral.wordLimit) : word n = .ok n := by
  unfold word
  rw [if_pos small]

/-- The number whose leading digits make `number` and whose other digits are given. -/
def extended (number : Nat) (digits : List Char) : Nat :=
  digits.foldl (fun total c => 10 * total + Numeral.digitValue c) number

theorem le_extended (number : Nat) (digits : List Char) : number ≤ extended number digits := by
  induction digits generalizing number with
  | nil => exact Nat.le_refl number
  | cons c digits ih =>
    have later := ih (10 * number + Numeral.digitValue c)
    simp only [extended, List.foldl_cons] at later ⊢
    omega

/-- Offsets only matter to faults, so the one after the digits is not computed. -/
theorem scan_digits (digits rest : List Char) (number offset : Nat) (total : Duration)
    (digital : ∀ c ∈ digits, Numeral.isDigit c = true)
    (small : extended number digits < Numeral.wordLimit) :
    ∃ after, scan (.whole number) offset total (digits ++ rest) =
      scan (.whole (extended number digits)) after total rest := by
  induction digits generalizing number offset with
  | nil => exact ⟨offset, rfl⟩
  | cons c digits ih =>
    have digit := digital c (by simp)
    have bound := le_extended (10 * number + Numeral.digitValue c) digits
    have fits : 10 * number + Numeral.digitValue c < Numeral.wordLimit :=
      Nat.lt_of_le_of_lt bound small
    obtain ⟨after, later⟩ := ih (10 * number + Numeral.digitValue c) (offset + c.utf8Size)
      (fun other member => digital other (by simp [member])) small
    refine ⟨after, ?_⟩
    rw [List.cons_append, scan]
    simp only [digit, if_true, word_of_lt _ fits, bind, Except.bind]
    exact later

theorem scan_number (n : Nat) (small : n < Numeral.wordLimit) (start offset : Nat)
    (anyRead : Bool) (total : Duration) (rest : List Char) :
    ∃ after, scan (.gap start anyRead) offset total (Numeral.natural n ++ rest) =
      scan (.whole n) after total rest := by
  cases shape : Numeral.natural n with
  | nil => exact absurd shape (Numeral.natural_ne_nil n)
  | cons c digits =>
    have digital : ∀ other ∈ c :: digits, Numeral.isDigit other = true := by
      intro other member
      exact Numeral.isDigit_of_mem_natural (n := n) (by rwa [shape])
    have value : extended (Numeral.digitValue c) digits = n := by
      have whole := Numeral.value_natural n
      rw [shape] at whole
      simpa [Numeral.value, extended] using whole
    obtain ⟨after, scanned⟩ := scan_digits digits rest (Numeral.digitValue c)
      (offset + c.utf8Size) total (fun other member => digital other (by simp [member]))
      (by rwa [value])
    refine ⟨after, ?_⟩
    rw [List.cons_append, scan]
    simp only [digital c (by simp), if_true]
    rw [scanned, value]

/-- Letters of a unit can be told from digits and spaces. -/
def IsName (name : List Char) : Prop :=
  name ≠ [] ∧
    name.all (fun c => isUnitLetter c && !Numeral.isDigit c && !isBlank c) = true

instance (name : List Char) : Decidable (IsName name) :=
  inferInstanceAs (Decidable (_ ∧ _))

theorem IsName.letter (name : List Char) (named : IsName name) (c : Char) (member : c ∈ name) :
    isUnitLetter c = true ∧ Numeral.isDigit c = false ∧ isBlank c = false := by
  have letter := List.all_eq_true.mp named.2 c member
  simpa [and_assoc] using letter

theorem scan_letters (letters rest read : List Char) (number offset : Nat) (total : Duration)
    (named : ∀ c ∈ letters,
      isUnitLetter c = true ∧ Numeral.isDigit c = false ∧ isBlank c = false) :
    ∃ after, scan (.unit number none read) offset total (letters ++ rest) =
      scan (.unit number none (read ++ letters)) after total rest := by
  induction letters generalizing read offset with
  | nil => exact ⟨offset, by rw [List.append_nil, List.nil_append]⟩
  | cons c letters ih =>
    obtain ⟨letter, noDigit, noBlank⟩ := named c (by simp)
    obtain ⟨after, later⟩ := ih (read ++ [c]) (offset + c.utf8Size)
      (fun other member => named other (by simp [member]))
    refine ⟨after, ?_⟩
    rw [List.cons_append, scan]
    simp only [letter, noDigit, noBlank, Bool.false_eq_true, if_false, if_true]
    rw [later, List.append_assoc, List.singleton_append]

theorem scan_name (name rest : List Char) (named : IsName name) (number offset : Nat)
    (total : Duration) :
    ∃ after, scan (.whole number) offset total (name ++ rest) =
      scan (.unit number none name) after total rest := by
  cases name with
  | nil => exact absurd rfl named.1
  | cons c letters =>
    obtain ⟨letter, noDigit, noBlank⟩ := named.letter _ c (by simp)
    obtain ⟨after, later⟩ := scan_letters letters rest [c] number (offset + c.utf8Size) total
      (fun other member => named.letter _ other (by simp [member]))
    refine ⟨after, ?_⟩
    rw [List.cons_append, scan]
    simp only [letter, noDigit, noBlank, Bool.false_eq_true, if_false, if_true]
    exact later

/-! ## Adding one amount -/

/-- Units below a second come in amounts below a second. -/
def TimeUnit.Admits (unit : TimeUnit) (amount : Nat) : Prop :=
  ∀ n, unit.whole = .nanoseconds n → amount * n < nanosecondsPerSecond

theorem exactly_one (n : Nat) : exactly n 1 = .ok n := by
  unfold exactly
  rw [if_pos (Nat.mod_one n), Nat.div_one]

theorem ofNanoseconds?_nanoseconds (d : Duration) : ofNanoseconds? d.nanoseconds = some d :=
  ofNanoseconds?_eq_some.mpr rfl

/-- An amount of seconds fits in 64 bits if its sum with the total is a duration. -/
theorem seconds_fit (total sum : Duration) (amount unit : Nat)
    (adds : total.nanoseconds + amount * (unit * nanosecondsPerSecond) = sum.nanoseconds) :
    amount * unit < Numeral.wordLimit := by
  have limit : sum.nanoseconds < Numeral.wordLimit * nanosecondsPerSecond := sum.lt_limit
  have scaled : amount * unit * nanosecondsPerSecond ≤ sum.nanoseconds := by
    rw [Nat.mul_assoc, ← adds]
    exact Nat.le_add_left _ _
  exact Nat.lt_of_mul_lt_mul_right (Nat.lt_of_le_of_lt scaled limit)

theorem plus_seconds (total sum : Duration) (n : Nat)
    (adds : total.nanoseconds + n * nanosecondsPerSecond = sum.nanoseconds) :
    total.plus (.seconds n) = .ok sum := by
  unfold plus
  simp only [pure_bind, adds, ofNanoseconds?_nanoseconds]

theorem plus_nanoseconds (total sum : Duration) (n : Nat) (below : n < nanosecondsPerSecond)
    (adds : total.nanoseconds + n = sum.nanoseconds) :
    total.plus (.nanoseconds n) = .ok sum := by
  have part : total.subsecond < nanosecondsPerSecond := Nat.mod_lt _ (by decide)
  have small : total.subsecond + n < Numeral.wordLimit := by
    calc
      total.subsecond + n < nanosecondsPerSecond + nanosecondsPerSecond := by omega
      _ < Numeral.wordLimit := by decide
  unfold plus
  simp only [word_of_lt _ small, ok_bind, pure_bind, adds, ofNanoseconds?_nanoseconds]

theorem plus_times (unit : TimeUnit) (total sum : Duration) (amount : Nat)
    (admitted : unit.Admits amount)
    (adds : total.nanoseconds + amount * unit.nanoseconds = sum.nanoseconds) :
    (do total.plus (← unit.whole.times amount 1)) = .ok sum := by
  unfold TimeUnit.nanoseconds at adds
  cases measure : unit.whole with
  | seconds n =>
    simp only [measure] at adds
    have fits := seconds_fit total sum amount n adds
    simp only [Measure.times, word_of_lt _ fits, exactly_one, ok_bind, pure_bind]
    exact plus_seconds total sum (amount * n) (by rwa [Nat.mul_assoc])
  | nanoseconds n =>
    simp only [measure] at adds
    have below := admitted n measure
    have fits : amount * n < Numeral.wordLimit := Nat.lt_trans below (by decide)
    simp only [Measure.times, word_of_lt _ fits, exactly_one, ok_bind, pure_bind]
    exact plus_nanoseconds total sum (amount * n) below adds

theorem addAmount_eq_ok (unit : TimeUnit) (name : List Char) (total sum : Duration)
    (amount : Nat) (known : TimeUnit.ofChars? name = some unit) (admitted : unit.Admits amount)
    (adds : total.nanoseconds + amount * unit.nanoseconds = sum.nanoseconds) :
    addAmount total amount none name = .ok sum := by
  have added := plus_times unit total sum amount admitted adds
  unfold addAmount
  simp only [known, pure_bind]
  rw [← bind_assoc, added]
  rfl

/-! ## Scanning a row of amounts -/

/-- An amount with its unit, as it stands in a text. -/
abbrev Part := Nat × List Char

def Part.chars (part : Part) : List Char := Numeral.natural part.1 ++ part.2

/-- A part whose number and unit can be read, and which its unit admits. -/
structure Part.Readable (part : Part) (unit : TimeUnit) : Prop where
  small : part.1 < Numeral.wordLimit
  named : IsName part.2
  known : TimeUnit.ofChars? part.2 = some unit
  admitted : unit.Admits part.1

/-- Adds parts one after the other, as scanning does. -/
def addParts (total : Duration) (parts : List Part) : Except Fault Duration :=
  parts.foldlM (fun total part => addAmount total part.1 none part.2) total

theorem scan_part (part : Part) (small : part.1 < Numeral.wordLimit) (named : IsName part.2)
    (start offset : Nat) (anyRead : Bool) (total : Duration) (rest : List Char) :
    ∃ after, scan (.gap start anyRead) offset total (part.chars ++ rest) =
      scan (.unit part.1 none part.2) after total rest := by
  obtain ⟨middle, number⟩ := scan_number part.1 small start offset anyRead total (part.2 ++ rest)
  obtain ⟨after, name⟩ := scan_name part.2 rest named part.1 middle total
  refine ⟨after, ?_⟩
  rw [Part.chars, List.append_assoc, number, name]

theorem scan_parts (parts : List Part) (some : parts ≠ [])
    (small : ∀ part ∈ parts, part.1 < Numeral.wordLimit) (named : ∀ part ∈ parts, IsName part.2)
    (start offset : Nat) (anyRead : Bool) (total : Duration) :
    scan (.gap start anyRead) offset total ([' '].intercalate (parts.map Part.chars)) =
      addParts total parts := by
  induction parts generalizing start offset anyRead total with
  | nil => exact absurd rfl some
  | cons part parts ih =>
    have first := scan_part part (small part (by simp)) (named part (by simp)) start offset
      anyRead total
    cases parts with
    | nil =>
      obtain ⟨after, scanned⟩ := first []
      rw [List.append_nil] at scanned
      rw [List.map_singleton, List.intercalate_singleton, scanned, scan]
      simp [addParts]
    | cons next parts =>
      obtain ⟨after, scanned⟩ := first (' ' :: [' '].intercalate ((next :: parts).map Part.chars))
      have later := ih (by simp) (fun other member => small other (by simp [member]))
        (fun other member => named other (by simp [member]))
      rw [List.map_cons, List.map_cons, List.intercalate_cons_cons, List.append_assoc,
        List.singleton_append, ← List.map_cons, scanned, scan]
      have space : Numeral.isDigit ' ' = false ∧ isBlank ' ' = true := by decide
      simp only [space, Bool.false_eq_true, if_false, if_true, addParts, List.foldlM_cons]
      refine bind_congr fun total => ?_
      exact later _ _ _ total

/-- The nanoseconds that a part stands for. -/
def Part.worth (part : Part) : Nat :=
  part.1 * (TimeUnit.ofChars? part.2).elim 0 TimeUnit.nanoseconds

/-- The nanoseconds of a row of parts. -/
def worthOf (parts : List Part) : Nat := parts.foldr (fun part worth => part.worth + worth) 0

theorem worthOf_cons (part : Part) (parts : List Part) :
    worthOf (part :: parts) = part.worth + worthOf parts := rfl

theorem Part.Readable.worth_eq (part : Part) (unit : TimeUnit) (readable : part.Readable unit) :
    part.worth = part.1 * unit.nanoseconds := by
  rw [Part.worth, readable.known, Option.elim_some]

theorem addParts_eq_ok (parts : List Part) (total sum : Duration)
    (readable : ∀ part ∈ parts, ∃ unit, part.Readable unit)
    (adds : total.nanoseconds + worthOf parts = sum.nanoseconds) :
    addParts total parts = .ok sum := by
  induction parts generalizing total with
  | nil =>
    have same : total = sum := Duration.ext adds
    rw [same]
    rfl
  | cons part parts ih =>
    obtain ⟨unit, first⟩ := readable part (by simp)
    rw [worthOf_cons, ← Nat.add_assoc] at adds
    have limit := sum.lt_limit
    rw [← adds] at limit
    let next : Duration :=
      ⟨total.nanoseconds + part.worth, Nat.lt_of_le_of_lt (Nat.le_add_right _ _) limit⟩
    have added := addAmount_eq_ok unit part.2 total next part.1 first.known first.admitted
      (by rw [← first.worth_eq])
    have later := ih next (fun other member => readable other (by simp [member])) adds
    unfold addParts at later ⊢
    rw [List.foldlM_cons, added, ok_bind, later]

/-! ## The amounts of a duration -/

/-- What is checked of the spelling of a unit. -/
def Spells (name : List Char) (unit : TimeUnit) : Prop :=
  IsName name ∧ TimeUnit.ofChars? name = some unit

instance (name : List Char) (unit : TimeUnit) : Decidable (Spells name unit) :=
  inferInstanceAs (Decidable (_ ∧ _))

theorem spells_name (amount : Nat) (unit : TimeUnit) :
    Spells (unit.name amount).toList unit := by
  by_cases one : amount = 1
  · cases unit <;> simp only [TimeUnit.name, one, if_true] <;> decide
  · cases unit <;> simp only [TimeUnit.name, one, if_false] <;> decide

theorem readable_spell (amount : Nat) (unit : TimeUnit) (small : amount < Numeral.wordLimit)
    (admitted : unit.Admits amount) : Part.Readable (spell (amount, unit)) unit :=
  ⟨small, (spells_name amount unit).1, (spells_name amount unit).2, admitted⟩

theorem worth_spell (amount : Nat) (unit : TimeUnit) :
    Part.worth (spell (amount, unit)) = amount * unit.nanoseconds := by
  rw [Part.worth, spell, (spells_name amount unit).2, Option.elim_some]

/-- Nothing is left after the nanoseconds. -/
theorem worthOf_breakdown (units : List TimeUnit) (n : Nat)
    (complete : units.getLast? = some .nanosecond) :
    worthOf ((breakdown units n).map spell) = n := by
  induction units generalizing n with
  | nil => cases complete
  | cons unit smaller ih =>
    rw [breakdown_cons, List.map_cons, worthOf_cons, worth_spell]
    -- A larger unit leaves what the smaller ones are worth, and the last one leaves nothing.
    cases smaller with
    | nil =>
      obtain rfl : unit = .nanosecond := Option.some.inj complete
      have one : TimeUnit.nanosecond.nanoseconds = 1 := rfl
      rw [one, Nat.div_one, Nat.mul_one]
      rfl
    | cons next smaller =>
      rw [ih _ complete]
      exact Nat.div_add_mod' n unit.nanoseconds

theorem admits_seconds (unit : TimeUnit) (amount n : Nat) (measure : unit.whole = .seconds n) :
    unit.Admits amount := by
  intro n' measure'
  rw [measure] at measure'
  cases measure'

theorem admits_nanoseconds (unit : TimeUnit) (amount n : Nat)
    (measure : unit.whole = .nanoseconds n) (below : amount * n < nanosecondsPerSecond) :
    unit.Admits amount := by
  intro n' measure'
  rw [measure] at measure'
  cases measure'
  exact below

theorem seconds_lt (d : Duration) : d.seconds < Numeral.wordLimit :=
  (Nat.div_lt_iff_lt_mul (by decide)).mpr d.lt_limit

/-- All amounts can be read, and together they make up the duration. -/
theorem amounts_spec (d : Duration) :
    (∀ part ∈ d.amounts, ∃ unit, Part.Readable part unit) ∧
      worthOf d.amounts = d.nanoseconds := by
  have seconds := seconds_lt d
  have subsecond : d.subsecond < 1000000000 := Nat.mod_lt _ (by decide)
  have word : 1000000000 < Numeral.wordLimit := by decide
  have year := readable_spell (d.seconds / 31557600) .year (by omega)
    (admits_seconds _ _ _ rfl)
  have month := readable_spell (d.seconds % 31557600 / 2630016) .month (by omega)
    (admits_seconds _ _ _ rfl)
  have day := readable_spell (d.seconds % 31557600 % 2630016 / 86400) .day (by omega)
    (admits_seconds _ _ _ rfl)
  have hour := readable_spell (d.seconds % 31557600 % 2630016 % 86400 / 3600) .hour (by omega)
    (admits_seconds _ _ _ rfl)
  have minute := readable_spell (d.seconds % 31557600 % 2630016 % 86400 % 3600 / 60) .minute
    (by omega) (admits_seconds _ _ _ rfl)
  have second := readable_spell (d.seconds % 31557600 % 2630016 % 86400 % 60) .second (by omega)
    (admits_seconds _ _ _ rfl)
  have milli := readable_spell (d.subsecond / 1000000) .millisecond (by omega)
    (admits_nanoseconds _ _ _ rfl (by simp only [nanosecondsPerSecond]; omega))
  have micro := readable_spell (d.subsecond / 1000 % 1000) .microsecond (by omega)
    (admits_nanoseconds _ _ _ rfl (by simp only [nanosecondsPerSecond]; omega))
  have nano := readable_spell (d.subsecond % 1000) .nanosecond (by omega)
    (admits_nanoseconds _ _ _ rfl (by simp only [nanosecondsPerSecond]; omega))
  rw [amounts_eq_spell]
  refine ⟨?_, worthOf_breakdown _ _ rfl⟩
  rw [breakdown_eq]
  simp only [List.map_cons, List.map_nil, List.forall_mem_cons]
  exact ⟨⟨_, year⟩, ⟨_, month⟩, ⟨_, day⟩, ⟨_, hour⟩, ⟨_, minute⟩, ⟨_, second⟩, ⟨_, milli⟩,
    ⟨_, micro⟩, ⟨_, nano⟩, by simp⟩

/-! ## The text of a duration -/

/-- The parts that are written. A duration of nothing is written as no seconds. -/
def shown (d : Duration) : List Part :=
  match d.amounts.filter (·.1 ≠ 0) with
  | [] => [(0, "s".toList)]
  | part :: parts => part :: parts

theorem chars_eq (d : Duration) : d.chars = [' '].intercalate (d.shown.map Part.chars) := by
  unfold chars shown
  cases d.amounts.filter (·.1 ≠ 0) with
  | nil => rfl
  | cons part parts => rfl

theorem shown_ne_nil (d : Duration) : d.shown ≠ [] := by
  unfold shown
  split
  · exact List.cons_ne_nil _ _
  · exact List.cons_ne_nil _ _

theorem worthOf_filter (parts : List Part) :
    worthOf (parts.filter (·.1 ≠ 0)) = worthOf parts := by
  induction parts with
  | nil => rfl
  | cons part parts ih =>
    by_cases none : part.1 = 0
    · have worthless : part.worth = 0 := by
        rw [Part.worth, none, Nat.zero_mul]
      rw [List.filter_cons_of_neg (by simpa using none), ih, worthOf_cons, worthless,
        Nat.zero_add]
    · rw [List.filter_cons_of_pos (by simpa using none), worthOf_cons, worthOf_cons, ih]

/-- What is left out adds nothing to the amounts that are written. -/
theorem shown_spec (d : Duration) :
    (∀ part ∈ d.shown, ∃ unit, Part.Readable part unit) ∧
      worthOf d.shown = d.nanoseconds := by
  obtain ⟨readable, sum⟩ := amounts_spec d
  rw [← worthOf_filter] at sum
  unfold shown
  split
  · rename_i filtered
    rw [filtered] at sum
    refine ⟨?_, ?_⟩
    · intro part member
      rw [List.mem_singleton] at member
      rw [member]
      exact ⟨.second, readable_spell 0 .second (by decide) (admits_seconds _ _ _ rfl)⟩
    · have worthless : Part.worth (0, "s".toList) = 0 := Nat.zero_mul _
      rw [← sum, worthOf_cons, worthless]
      rfl
  · rename_i part parts filtered
    rw [filtered] at sum
    refine ⟨?_, sum⟩
    intro other member
    rw [← filtered] at member
    exact readable other ((List.mem_filter.mp member).1)

theorem one_lt_length_part (part : Part) (named : IsName part.2) : 1 < part.chars.length := by
  have number : 0 < (Numeral.natural part.1).length :=
    List.length_pos_iff.mpr (Numeral.natural_ne_nil part.1)
  have name : 0 < part.2.length := List.length_pos_iff.mpr named.1
  rw [Part.chars, List.length_append]
  omega

theorem one_lt_length_chars (d : Duration) : 1 < d.chars.length := by
  rw [chars_eq]
  have readable := (shown_spec d).1
  cases parts : d.shown with
  | nil => exact absurd parts (shown_ne_nil d)
  | cons part others =>
    obtain ⟨unit, first⟩ := readable part (by rw [parts]; simp)
    have long := one_lt_length_part part first.named
    cases others with
    | nil => simpa using long
    | cons next others =>
      rw [List.map_cons, List.map_cons, List.intercalate_cons_cons, List.length_append,
        List.length_append]
      omega

theorem toList_toString (d : Duration) : (toString d).toList = d.chars := String.toList_ofList

/-- Every duration is read back from its own text. -/
theorem read_toString (d : Duration) : read (toString d) = .ok d := by
  have long := one_lt_length_chars d
  have unequal : ∀ text : String, text.toList.length ≤ 1 → toString d ≠ text := by
    intro text short same
    rw [← same, toList_toString] at short
    omega
  obtain ⟨readable, sum⟩ := shown_spec d
  unfold read
  rw [if_neg (not_or.mpr ⟨unequal "" (by decide), unequal "0" (by decide)⟩), toList_toString,
    chars_eq, scan_parts d.shown (shown_ne_nil d)
      (fun part member => (readable part member).elim fun _ part => part.small)
      (fun part member => (readable part member).elim fun _ part => part.named)]
  refine addParts_eq_ok d.shown zero d readable ?_
  rw [sum]
  exact Nat.zero_add d.nanoseconds

/-! ## What a text names -/

/-- The text of amounts with their units. -/
def rowText (row : List (Nat × TimeUnit)) : List Char :=
  [' '].intercalate (row.map fun part => Part.chars (spell part))

theorem row_ne_nil (d : Duration) (nonzero : d ≠ zero) : d.row ≠ [] := by
  intro none
  have worth := worthOf_filter d.amounts
  rw [filter_amounts, none, (amounts_spec d).2] at worth
  exact nonzero (Duration.ext worth.symm)

theorem shown_eq (d : Duration) (nonzero : d ≠ zero) : d.shown = d.row.map spell := by
  obtain ⟨part, parts, named⟩ := List.exists_cons_of_ne_nil (row_ne_nil d nonzero)
  rw [shown, filter_amounts, named]
  rfl

/-- A duration of nothing is written as no seconds, any other one as its row. -/
theorem toList_toString_eq (d : Duration) :
    (toString d).toList = if d = zero then "0s".toList else rowText d.row := by
  split
  · rename_i nothing
    rw [nothing]
    decide
  · rename_i nonzero
    rw [toList_toString, chars_eq, shown_eq d nonzero, List.map_map]
    rfl

/-- Every duration is read back from its text, so no two durations have the same text. The text
names how often each unit goes into what larger units leave, without the units that do not. The
empty text is read as a duration of nothing. -/
theorem texts_keep_durations :
    (∀ d : Duration, read (toString d) = .ok d) ∧
    (∀ d d' : Duration, toString d = toString d' ↔ d = d') ∧
    (∀ d : Duration, (toString d).toList = if d = zero then "0s".toList else rowText d.row) ∧
    read "" = .ok zero := by
  refine ⟨read_toString, fun d d' => ⟨fun same => ?_, fun same => by rw [same]⟩,
    toList_toString_eq, rfl⟩
  have back := read_toString d
  rw [same, read_toString] at back
  exact (Except.ok.inj back).symm

/-- The largest duration. -/
example : toString (⟨18446744073709551615999999999, by decide⟩ : Duration) =
    "584542046090years 7months 15days 17h 5m 3s 999ms 999us 999ns" := by decide

/-! ## The length of the text -/

theorem length_name_le (name : List Char) (unit : TimeUnit)
    (known : TimeUnit.ofChars? name = some unit) : name.length ≤ 7 := by
  have short : ∀ entry ∈ TimeUnit.spellings, entry.1.toList.length ≤ 7 := by decide
  obtain ⟨entry, found, _⟩ := Option.map_eq_some_iff.mp known
  have spelt := List.find?_some found
  rw [← beq_iff_eq.mp spelt]
  exact short entry (List.mem_of_find?_eq_some found)

theorem Part.Readable.length_le (part : Part) (unit : TimeUnit) (readable : part.Readable unit) :
    part.chars.length ≤ 27 := by
  have number : (Numeral.natural part.1).length ≤ 20 :=
    (Nat.length_toDigits_le_iff (by decide) (by decide)).mpr
      (Nat.lt_trans readable.small (by decide))
  have name := length_name_le part.2 unit readable.known
  rw [Part.chars, List.length_append]
  omega

theorem length_intercalate_le (texts : List (List Char)) (most : Nat)
    (short : ∀ text ∈ texts, text.length ≤ most) :
    ([' '].intercalate texts).length ≤ texts.length * (most + 1) := by
  induction texts with
  | nil => simp
  | cons text texts ih =>
    have first := short text (by simp)
    have later := ih fun other member => short other (by simp [member])
    cases texts with
    | nil =>
      rw [List.intercalate_singleton, List.length_singleton]
      omega
    | cons next texts =>
      rw [List.intercalate_cons_cons, List.length_append, List.length_append,
        List.length_singleton, List.length_cons, Nat.add_mul]
      omega

theorem length_shown_le (d : Duration) : d.shown.length ≤ 9 := by
  unfold shown
  split
  · decide
  · rename_i part parts filtered
    rw [← filtered]
    exact List.length_filter_le _ d.amounts

theorem length_chars_le (d : Duration) : d.chars.length ≤ 252 := by
  have each : ∀ text ∈ d.shown.map Part.chars, text.length ≤ 27 := by
    intro text member
    obtain ⟨part, shown, rfl⟩ := List.mem_map.mp member
    obtain ⟨unit, readable⟩ := (shown_spec d).1 part shown
    exact readable.length_le
  have total := length_intercalate_le (d.shown.map Part.chars) 27 each
  have few := length_shown_le d
  rw [List.length_map] at total
  rw [chars_eq]
  omega

end GridChess.Duration
