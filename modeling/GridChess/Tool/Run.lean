import GridChess.Picture
import GridChess.Record.Json
import GridChess.Settings.File
import GridChess.Tool.Options
import GridChess.Tool.Playout

/-!
# The dump tool

Plays random legal moves under a rule set and shows the match. The match can be written to a
file, which is then read back and compared. Settings come from a settings file, options go
before them, and the effective settings can be stored. Which moves are picked is not decided
here: the generator of random numbers is a parameter.
-/

set_option autoImplicit false

namespace GridChess.Tool

/-- What a run can report as its error. -/
inductive Fault where
  | settings (fault : Settings.FileFault)
  | unknownRules (known : List String)
  /-- A picked move was refused. -/
  | refused (error : Error)
  | game (error : Error)
  | cannotWrite (path : String)
  | differs (path : String)
  deriving DecidableEq, Repr

def Fault.message : Fault → String
  | .settings fault => fault.message
  | .unknownRules known => "known rule sets: " ++ ", ".intercalate known
  | .refused _ => "random move was rejected"
  | .game error => error.message
  | .cannotWrite path => "failed to write " ++ path
  | .differs path => "match read back from " ++ path ++ " differs"

/-- How a run ends. -/
inductive Ending where
  | done
  | failed (fault : Fault)
  /-- The clock of the playout is full. Nothing checks for that, and no error is reported. -/
  | crashed
  /-- The command line is no command line of the tool. -/
  | misused
  deriving DecidableEq, Repr

def Ending.code : Ending → Nat
  | .done => 0
  | .failed _ => 1
  | .crashed => 101
  | .misused => 1

def Ending.ofPlayout : PlayoutFault → Ending
  | .clockOverflow => .crashed
  | .refused error => .failed (.refused error)

/-- What a run printed, and how it ended. -/
structure Outcome where
  output : String
  ending : Ending
  deriving DecidableEq, Repr

/-- What a run depends on besides its options, the disk and random numbers. -/
structure Environment where
  home : Option String
  now : Instant
  deriving DecidableEq, Repr

/-- A generator of random numbers: for a seed, or for none, a number to pick each move by. -/
abbrev Picks := Option UInt64 → Nat → Nat

variable {m : Type → Type} [Monad m]

/-- The settings of a run: those of the file, under the options. -/
def Options.settings (options : Options) (disk : Disk m) (home : Option String) :
    m (Except Fault Settings) := do
  match ← Settings.load disk home options.config with
  | .ok settings => return .ok (options.override settings)
  | .error fault => return .error (.settings fault)

/-- The match that the settings lead to, or how the run ends without one. -/
def play (picks : Picks) (environment : Environment) (settings : Settings) :
    Except Ending Match :=
  match Registry.default.get? settings.rules with
  | none => .error (.failed (.unknownRules Registry.default.names))
  | some rules =>
    let delay := Duration.ofMilliseconds settings.delayMilliseconds
    match playout (picks settings.seed) delay settings.plies.toNat 0 .zero
        (Match.new rules (some environment.now)) with
    | .ok game => .ok game
    | .error fault => .error (.ofPlayout fault)

/-- Reads back what was written. -/
def reread (game : Match) (path json : String) : Except Fault Unit :=
  match Match.ofJson Registry.default json with
  | .error error => .error (.game error)
  | .ok read =>
    if read.board = game.board ∧ read.moves = game.moves then .ok ()
    else .error (.differs path)

def writeMatch (disk : Disk m) (game : Match) (path : String) : m (Except Fault Unit) := do
  match game.toJson .indented with
  | .error error => return .error (.game error)
  | .ok json =>
    if ← disk.writeText path json then return reread game path json
    else return .error (.cannotWrite path)

/-- Stores the settings if the options ask for it. -/
def storeSettings (disk : Disk m) (home : Option String) (options : Options)
    (settings : Settings) : m (Except Fault Unit) := do
  if options.saveConfig then
    match ← settings.save disk home options.config with
    | .ok () => return .ok ()
    | .error fault => return .error (.settings fault)
  else return .ok ()

def Outcome.ofResult (output : String) : Except Fault Unit → Outcome
  | .ok () => ⟨output, .done⟩
  | .error fault => ⟨output, .failed fault⟩

/-- Shows the match, and writes it to a file if the options ask for one. -/
def Options.report (options : Options) (disk : Disk m) (game : Match) : m Outcome :=
  let output := Picture.ofMatch game
  match options.output with
  | none => return ⟨output, .done⟩
  | some path => return .ofResult output (← writeMatch disk game path)

def Options.run (options : Options) (disk : Disk m) (picks : Picks) (environment : Environment) :
    m Outcome := do
  match ← options.settings disk environment.home with
  | .error fault => return ⟨"", .failed fault⟩
  | .ok settings =>
    match ← storeSettings disk environment.home options settings with
    | .error fault => return ⟨"", .failed fault⟩
    | .ok () =>
      match play picks environment settings with
      | .error ending => return ⟨"", ending⟩
      | .ok game => options.report disk game

/-- Runs the tool on a command line. -/
def run (disk : Disk m) (picks : Picks) (environment : Environment) (arguments : List String) :
    m Outcome :=
  match Options.ofArguments? arguments with
  | some options => options.run disk picks environment
  | none => return ⟨"", .misused⟩

end GridChess.Tool
