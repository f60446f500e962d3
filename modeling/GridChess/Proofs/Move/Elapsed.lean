import GridChess.Move
import GridChess.Proofs.Duration.Text

/-!
# Shown times

The text of a move ends with its time, rounded down to seconds or to tenths of a second, unless the
time is zero. The rounded time is kept as a 64-bit number of milliseconds before it is written, so
from 18446744073709552 seconds on it wraps around, and a much shorter time is shown. Up to there the
shown time is the rounded one, and later moves show later times (`elapsed_rounds_down`).
-/

set_option autoImplicit false

namespace GridChess

/-- A number is the largest multiple of a step that is not above another number. -/
structure RoundsDown (step n rounded : Nat) : Prop where
  multiple : ∃ k, rounded = k * step
  le : rounded ≤ n
  largest : ∀ k, k * step ≤ n → k * step ≤ rounded

theorem roundsDown_iff (step n rounded : Nat) (positive : 0 < step) :
    RoundsDown step n rounded ↔ rounded = n / step * step := by
  have below : n / step * step ≤ n := Nat.div_mul_le_self n step
  have largest : ∀ k, k * step ≤ n → k * step ≤ n / step * step := by
    intro k multiple
    exact Nat.mul_le_mul_right step ((Nat.le_div_iff_mul_le positive).mpr multiple)
  constructor
  · rintro ⟨⟨k, rfl⟩, le, most⟩
    exact Nat.le_antisymm (largest k le) (most (n / step) below)
  · rintro rfl
    exact ⟨⟨n / step, rfl⟩, below, largest⟩

namespace Move

/-- The text of a move up to its time. -/
def pathText (move : Move) : String :=
  toString move.kind ++ " " ++ toString move.origin ++ " " ++ toString move.target

/-- The text of the move goes on after its path, and what it goes on with is read as this time. -/
def Shows (move : Move) (shown : Duration) : Prop :=
  ∃ text, toString move = move.pathText ++ "  +" ++ text ∧ Duration.read text = .ok shown

/-- Times are shown in seconds once more than 45 whole seconds have passed, and before that in
tenths of a second. The step is given in nanoseconds. -/
def step (time : Duration) : Nat := if 45 < time.seconds then 1000000000 else 100000000

/-- The first whole second whose milliseconds do not fit in 64 bits. -/
def firstUnshown : Nat := 18446744073709552

/-! ## The two forms of the text -/

theorem toList_pathText (move : Move) :
    move.pathText.toList =
      move.kind.blackGlyph :: ' ' :: move.origin.chars ++ ' ' :: move.target.chars := by
  simp [pathText, ToString.toString]

theorem toString_eq (move : Move) :
    toString move =
      if move.time = .zero then move.pathText
      else move.pathText ++ "  +" ++ toString (shownTime move.time) := by
  apply String.toList_inj.mp
  have path := move.toList_pathText
  change (String.ofList move.chars).toList = _
  rw [String.toList_ofList]
  unfold chars
  split
  · exact path.symm
  · rw [String.toList_append, String.toList_append, path, Duration.toList_toString]

theorem pathText_ne_append (move : Move) (text : String) :
    move.pathText ≠ move.pathText ++ "  +" ++ text := by
  intro same
  have lengths := congrArg String.length same
  rw [String.length_append, String.length_append] at lengths
  have mark : "  +".length = 3 := rfl
  omega

theorem toString_eq_pathText_iff (move : Move) :
    toString move = move.pathText ↔ move.time = .zero := by
  rw [toString_eq]
  split
  · rename_i zero
    exact iff_of_true rfl zero
  · rename_i nonzero
    exact iff_of_false (Ne.symm (move.pathText_ne_append _)) nonzero

/-- A move shows one time, and none if its time is zero. -/
theorem shows_iff (move : Move) (d : Duration) :
    move.Shows d ↔ move.time ≠ .zero ∧ d = shownTime move.time := by
  constructor
  · rintro ⟨text, same, read⟩
    have nonzero : move.time ≠ .zero := by
      intro zero
      rw [(move.toString_eq_pathText_iff).mpr zero] at same
      exact pathText_ne_append move text same
    rw [toString_eq, if_neg nonzero, String.append_right_inj] at same
    rw [← same, Duration.read_toString] at read
    exact ⟨nonzero, (Except.ok.inj read).symm⟩
  · rintro ⟨nonzero, rfl⟩
    refine ⟨toString (shownTime move.time), ?_, Duration.read_toString _⟩
    rw [toString_eq, if_neg nonzero]

/-! ## The rounded time -/

theorem step_pos (time : Duration) : 0 < step time := by
  unfold step
  split <;> decide

/-- The shown time is the rounded one, modulo the milliseconds that 64 bits tell apart. -/
theorem nanoseconds_shownTime (time : Duration) :
    (shownTime time).nanoseconds =
      time.nanoseconds / step time * step time % (18446744073709551616 * 1000000) := by
  change (UInt64.ofNat (time.milliseconds / shownStep time * shownStep time)).toNat *
    nanosecondsPerMillisecond = _
  rw [UInt64.toNat_ofNat']
  unfold shownStep step Duration.milliseconds
  simp only [nanosecondsPerMillisecond]
  split
  · omega
  · omega

theorem rounded_lt_iff (time : Duration) :
    time.nanoseconds / step time * step time < 18446744073709551616 * 1000000 ↔
      time.seconds < firstUnshown := by
  unfold step firstUnshown Duration.seconds nanosecondsPerSecond
  split
  · omega
  · omega

theorem roundsDown_shownTime_iff (time : Duration) :
    RoundsDown (step time) time.nanoseconds (shownTime time).nanoseconds ↔
      time.seconds < firstUnshown := by
  rw [roundsDown_iff _ _ _ (step_pos time), nanoseconds_shownTime, ← rounded_lt_iff]
  constructor
  · intro whole
    rw [← whole]
    exact Nat.mod_lt _ (by decide)
  · exact Nat.mod_eq_of_lt

/-- Rounding keeps the order, also where the step changes. -/
theorem rounded_mono (time time' : Duration) (before : time.nanoseconds ≤ time'.nanoseconds) :
    time.nanoseconds / step time * step time ≤
      time'.nanoseconds / step time' * step time' := by
  unfold step Duration.seconds nanosecondsPerSecond
  split
  · split
    · omega
    · omega
  · split
    · omega
    · omega

theorem shownTime_mono (time time' : Duration) (before : time.nanoseconds ≤ time'.nanoseconds)
    (shown : time'.seconds < firstUnshown) :
    (shownTime time).nanoseconds ≤ (shownTime time').nanoseconds := by
  have fits := (rounded_lt_iff time').mpr shown
  rw [nanoseconds_shownTime, nanoseconds_shownTime time', Nat.mod_eq_of_lt fits]
  exact Nat.le_trans (Nat.mod_le _ _) (rounded_mono time time' before)

/-- A move is written without a time exactly if its time is zero. Otherwise its text ends in one
time that can be read back: its own, rounded down to the step and taken modulo what 64 bits of
milliseconds can hold. That is the largest multiple of the step which is not above the time of the
move exactly if fewer than 18446744073709552 seconds have passed, and before that no move shows a
longer time than a later one. -/
theorem elapsed_rounds_down (move : Move) :
    (toString move = move.pathText ↔ move.time = .zero) ∧
    (∃ shown : Duration, (∀ d, move.Shows d ↔ move.time ≠ .zero ∧ d = shown) ∧
      shown.nanoseconds = move.time.nanoseconds / step move.time * step move.time %
        (18446744073709551616 * 1000000) ∧
      (RoundsDown (step move.time) move.time.nanoseconds shown.nanoseconds ↔
        move.time.seconds < firstUnshown)) ∧
    ∀ (later : Move) (shown shown' : Duration), move.Shows shown → later.Shows shown' →
      move.time.nanoseconds ≤ later.time.nanoseconds → later.time.seconds < firstUnshown →
      shown.nanoseconds ≤ shown'.nanoseconds := by
  refine ⟨move.toString_eq_pathText_iff,
    ⟨shownTime move.time, move.shows_iff, nanoseconds_shownTime move.time,
      roundsDown_shownTime_iff move.time⟩, ?_⟩
  intro later shown shown' first second before fits
  obtain ⟨_, rfl⟩ := (move.shows_iff shown).mp first
  obtain ⟨_, rfl⟩ := (later.shows_iff shown').mp second
  exact shownTime_mono move.time later.time before fits

/-- The first time that is not shown as it is, after 584 million years. -/
def lateMove : Move where
  kind := .rook
  origin := .flat 4 1
  target := .flat 4 3
  time := ⟨18446744073709552 * 1000000000, by decide⟩

theorem elapsed_wraps_around :
    toString lateMove = "♜ e2 e4  +384ms" ∧
    RoundsDown (step lateMove.time) lateMove.time.nanoseconds (18446744073709552 * 1000000000) ∧
    ¬∃ shown, lateMove.Shows shown ∧
      RoundsDown (step lateMove.time) lateMove.time.nanoseconds shown.nanoseconds := by
  have late : step lateMove.time = 1000000000 := by decide
  refine ⟨by decide, ?_, ?_⟩
  · rw [late, roundsDown_iff _ _ _ (by decide)]
    rfl
  · rintro ⟨shown, shows, rounded⟩
    obtain ⟨_, rfl⟩ := (lateMove.shows_iff shown).mp shows
    have early := (roundsDown_shownTime_iff lateMove.time).mp rounded
    revert early
    decide

end Move

end GridChess
