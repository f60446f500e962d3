import GridChess.FileTree
import GridChess.Proofs.Settings.Json
import GridChess.Proofs.Tool.Run

/-!
# When the clock is full

The clock of a playout advances with every move and has to fit into a duration, and nothing checks
that it does. On the flat board some choice of legal moves fills the clock as soon as the delays of
all moves together do not fit into a duration, and no choice does before that (`clock_fills_iff`).
On the hyper-board nothing moves, and the clock is never full. A run crashes where the playout of
its settings fills the clock, and for no other reason.
-/

set_option autoImplicit false

namespace GridChess.Tool

/-! ## Playouts of the settings -/

/-- How long all moves of a playout take together, in milliseconds. -/
def totalDelay (settings : Settings) : Nat :=
  settings.plies.toNat * settings.delayMilliseconds.toNat

/-- The milliseconds that a duration cannot hold any more. -/
def fullClock : Nat := 18446744073709551616 * 1000

theorem nanoseconds_totalDelay (settings : Settings) :
    settings.plies.toNat * (Duration.ofMilliseconds settings.delayMilliseconds).nanoseconds =
      totalDelay settings * 1000000 :=
  (Nat.mul_assoc _ _ _).symm

theorem legalMoves_hyper (board : Board) (time : Duration) :
    RuleSet.hyper.legalMoves board time = [] := by
  have nowhere : ∀ piece, RuleSet.hyper.reachable board piece = [] :=
    fun piece => List.filter_eq_nil_iff.mpr fun target _ => Bool.false_ne_true
  unfold RuleSet.legalMoves
  rw [List.flatMap_eq_nil_iff]
  intro piece _
  rw [nowhere]
  rfl

/-- Nothing moves on the hyper-board, so the playout ends before its first move. -/
theorem playout_hyper (picks : Nat → Nat) (delay : Duration) (plies : Nat) (game : Match)
    (rules : game.rules = .hyper) : playout picks delay plies 0 .zero game = .ok game := by
  cases plies with
  | zero => rfl
  | succ plies =>
    have ticks : Duration.zero.add? delay = some delay :=
      Duration.ofNanoseconds?_eq_some.mpr (Nat.zero_add _).symm
    unfold playout
    simp only [ticks, rules, legalMoves_hyper, pick?, List.getElem?_nil]

/-! ## Full clocks -/

/-- Some picks, for the seed of the settings or for none, fill the clock. -/
def CanFillClock (environment : Environment) (settings : Settings) : Prop :=
  ∃ picks, play picks environment settings = .error .crashed

section

variable (picks : Picks) (environment : Environment) (settings : Settings)

theorem play_eq_crashed_iff (rules : RuleSet)
    (registered : Registry.default.get? settings.rules = some rules) :
    play picks environment settings = .error .crashed ↔
      playout (picks settings.seed) (.ofMilliseconds settings.delayMilliseconds)
        settings.plies.toNat 0 .zero (.new rules (some environment.now)) =
          .error .clockOverflow := by
  rw [play_eq picks environment settings rules registered, mapError_eq_error_iff]
  constructor
  · rintro ⟨fault, failed, crashed⟩
    cases fault with
    | clockOverflow => exact failed
    | refused error => cases crashed
  · intro filled
    exact ⟨_, filled, rfl⟩

/-- The clock is not filled by moves that fit all together. -/
theorem fullClock_le_of_crashed (crashed : play picks environment settings = .error .crashed) :
    fullClock ≤ totalDelay settings := by
  refine Nat.le_of_not_lt fun fits => ?_
  have total := nanoseconds_totalDelay settings
  have small : settings.plies.toNat *
      (Duration.ofMilliseconds settings.delayMilliseconds).nanoseconds <
        18446744073709551616 * 1000000000 := by
    rw [total]
    unfold fullClock at fits
    omega
  cases registered : Registry.default.get? settings.rules with
  | none =>
    rw [play_of_unknown picks environment settings registered] at crashed
    cases crashed
  | some rules =>
    have filled :=
      (play_eq_crashed_iff picks environment settings rules registered).mp crashed
    obtain ⟨game, played⟩ := exists_playout rules
      (Registry.shipped_default.of_get? _ _ rules registered) (some environment.now)
      (.ofMilliseconds settings.delayMilliseconds) settings.plies.toNat (picks settings.seed)
      ⟨_, small⟩ (Duration.ofNanoseconds?_eq_some.mpr rfl)
    rw [played] at filled
    cases filled

theorem canFillClock_flat (registered : Registry.default.get? settings.rules = some .flat)
    (long : fullClock ≤ totalDelay settings) : CanFillClock environment settings := by
  have total := nanoseconds_totalDelay settings
  obtain ⟨numbers, filled⟩ := exists_overflow (some environment.now)
    (.ofMilliseconds settings.delayMilliseconds) settings.plies.toNat (by
      rw [total]
      unfold fullClock at long
      omega)
  exact ⟨fun _ => numbers,
    (play_eq_crashed_iff _ environment settings .flat registered).mpr filled⟩

theorem not_crashed_hyper (registered : Registry.default.get? settings.rules = some .hyper) :
    play picks environment settings ≠ .error .crashed := by
  rw [ne_eq, play_eq_crashed_iff picks environment settings .hyper registered,
    playout_hyper _ _ _ _ rfl]
  nofun

end

/-! ## Runs that crash -/

section

variable {σ : Type} (disk : Disk (StateM σ)) (picks : Picks) (environment : Environment)
  (options : Options)

theorem not_crashed_of_report (game : Match) (state : σ) :
    ((options.report disk game).run state).1.ending ≠ .crashed := by
  unfold Options.report
  cases options.output with
  | none => nofun
  | some path =>
    dsimp only
    rw [run_bind]
    cases ((writeMatch disk game path).run state).1 with
    | ok _ => nofun
    | error fault => nofun

/-- A run crashes if it comes to its playout and this fills the clock, and not otherwise. -/
theorem run_crashed_iff (state : σ) :
    ((options.run disk picks environment).run state).1.ending = .crashed ↔
      ∃ settings loaded ready,
        (options.settings disk environment.home).run state = (.ok settings, loaded) ∧
        (storeSettings disk environment.home options settings).run loaded = (.ok (), ready) ∧
        play picks environment settings = .error .crashed := by
  constructor
  · intro crashed
    cases found : (options.settings disk environment.home).run state with
    | mk read loaded =>
      cases read with
      | error fault =>
        unfold Options.run at crashed
        rw [run_bind, found] at crashed
        cases crashed
      | ok settings =>
        cases stored : (storeSettings disk environment.home options settings).run loaded with
        | mk could ready =>
          cases could with
          | error fault =>
            unfold Options.run at crashed
            rw [run_bind, found] at crashed
            dsimp only at crashed
            rw [run_bind, stored] at crashed
            cases crashed
          | ok _ =>
            refine ⟨settings, loaded, ready, rfl, stored, ?_⟩
            cases played : play picks environment settings with
            | ok game =>
              rw [run_of_played disk picks environment options settings state loaded ready found
                stored game played] at crashed
              exact absurd crashed (not_crashed_of_report disk options game ready)
            | error ending =>
              rw [run_of_ended disk picks environment options settings state loaded ready found
                stored ending played] at crashed
              exact congrArg Except.error crashed
  · rintro ⟨settings, loaded, ready, found, stored, crashed⟩
    rw [run_of_ended disk picks environment options settings state loaded ready found stored
      .crashed crashed]

end

/-- On the flat board the clock can be filled exactly if the moves that are asked for take 2^64
seconds or more all together, and on the hyper-board never. However the moves are picked, the clock
is not filled otherwise. A run of the tool crashes if it comes to a playout that fills the clock,
and not otherwise. -/
theorem clock_fills_iff (environment : Environment) (settings : Settings) :
    (Registry.default.get? settings.rules = some .flat →
      (CanFillClock environment settings ↔ fullClock ≤ totalDelay settings)) ∧
    (Registry.default.get? settings.rules = some .hyper → ¬CanFillClock environment settings) ∧
    (∀ picks, play picks environment settings = .error .crashed →
      fullClock ≤ totalDelay settings) ∧
    (∀ (σ : Type) (disk : Disk (StateM σ)) (picks : Picks) (options : Options) (state : σ),
      ((options.run disk picks environment).run state).1.ending = .crashed ↔
        ∃ settings loaded ready,
          (options.settings disk environment.home).run state = (.ok settings, loaded) ∧
          (storeSettings disk environment.home options settings).run loaded = (.ok (), ready) ∧
          play picks environment settings = .error .crashed) := by
  refine ⟨fun registered => ⟨?_, canFillClock_flat environment settings registered⟩, ?_, ?_, ?_⟩
  · rintro ⟨picks, crashed⟩
    exact fullClock_le_of_crashed picks environment settings crashed
  · rintro registered ⟨picks, crashed⟩
    exact not_crashed_hyper picks environment settings registered crashed
  · exact fun picks => fullClock_le_of_crashed picks environment settings
  · exact fun σ disk picks options => run_crashed_iff disk picks environment options

/-- The settings of a long game with the longest delay. -/
def longGame : Settings := ⟨"Boring2D", 1001, some 3, 18446744073709551615⟩

def longGameFile : FileTree := ⟨[], [(["c.json".toList], .file (Text.octets longGame.toJson))]⟩

theorem settings_longGame :
    (({ config := "c.json" } : Options).settings FileTree.disk none).run longGameFile =
      (.ok longGame, longGameFile) := by
  have home : Path.expandHome none "c.json" = "c.json" := by decide
  have stored : (FileTree.disk.readText "c.json").run longGameFile =
      (.ok longGame.toJson, longGameFile) := by rfl
  have loaded : (Settings.load FileTree.disk none "c.json").run longGameFile =
      (.ok longGame, longGameFile) := by
    unfold Settings.load
    rw [home, run_bind, stored]
    dsimp only
    rw [Settings.ofJson_toJson]
    rfl
  unfold Options.settings
  rw [run_bind, loaded]
  rfl

/-- The longest delay fills the clock with the 1001st move, and the tool crashes. -/
theorem clock_fills_in_long_game :
    CanFillClock ⟨none, ⟨0⟩⟩ longGame ∧
      (∃ picks, ((run FileTree.disk picks ⟨none, ⟨0⟩⟩ ["-c", "c.json"]).run longGameFile).1 =
        ⟨"", .crashed⟩) ∧
      Ending.crashed.code = 101 := by
  obtain ⟨picks, crashed⟩ := canFillClock_flat ⟨none, ⟨0⟩⟩ longGame rfl (by decide)
  have read : Options.ofArguments? ["-c", "c.json"] = some { config := "c.json" } := by decide
  refine ⟨⟨picks, crashed⟩, ⟨picks, ?_⟩, rfl⟩
  unfold run
  rw [read]
  exact congrArg Prod.fst (run_of_ended FileTree.disk picks ⟨none, ⟨0⟩⟩ { config := "c.json" }
    longGame longGameFile longGameFile longGameFile settings_longGame rfl .crashed crashed)

end GridChess.Tool
