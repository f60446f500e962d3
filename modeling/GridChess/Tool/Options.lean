import GridChess.Settings
import GridChess.Text.Numeral

/-!
# Options of the dump tool

The command line consists of options, each given at most once, in any order. A value follows its
option as the next argument, after an equals sign, or, for a one-letter option, directly. An
argument that starts with a dash and has more than one character is never a value of its own. An
option that has a default may also stand without a value.
-/

set_option autoImplicit false

namespace GridChess.Tool

/-- The settings file that is read where the options name none. -/
def defaultConfig : String := "~/.chesseract.json"

structure Options where
  config : String := defaultConfig
  rules : Option String := none
  plies : Option UInt64 := none
  seed : Option UInt64 := none
  /-- Where to write the match as JSON. -/
  output : Option String := none
  /-- Whether to store the effective settings. -/
  saveConfig : Bool := false
  deriving DecidableEq, Repr

/-- The options that take a value. -/
inductive Key where
  | config | rules | plies | seed | output
  deriving DecidableEq, Repr

def Key.all : List Key := [.config, .rules, .plies, .seed, .output]

def Key.long : Key → String
  | .config => "config"
  | .rules => "rule-set"
  | .plies => "plies"
  | .seed => "seed"
  | .output => "output"

def Key.letter : Key → Char
  | .config => 'c'
  | .rules => 'r'
  | .plies => 'p'
  | .seed => 's'
  | .output => 'o'

/-- The value of an option that stands without one. -/
def Key.default? : Key → Option String
  | .config => some defaultConfig
  | _ => none

def saveConfigName : String := "save-config"

/-- One option as given; `none` is the option without a value. -/
abbrev Given := Option Key × String

/-- What an argument is. -/
inductive Argument where
  /-- An option with its value, or the one without. -/
  | given (item : Given)
  /-- An option whose value is the next argument, if that is no option. -/
  | awaiting (key : Key)
  /-- Two dashes: options end here. -/
  | endOfOptions
  | unknown
  deriving DecidableEq, Repr

/-- Equals signs before a value are dropped. -/
def valueOf (chars : List Char) : String := String.ofList (chars.dropWhile (· = '='))

/-- An argument that starts with two dashes; any further dashes are dropped too. -/
def longArgument (chars : List Char) : Argument :=
  let body := chars.dropWhile (· = '-')
  let name := String.ofList (body.takeWhile (· ≠ '='))
  let value := body.dropWhile (· ≠ '=')
  match Key.all.find? (·.long = name) with
  | some key => if value.isEmpty then .awaiting key else .given (some key, valueOf value)
  | none => if name = saveConfigName then .given (none, "") else .unknown

def shortArgument (letter : Char) (value : List Char) : Argument :=
  match Key.all.find? (·.letter = letter) with
  | some key => if value.isEmpty then .awaiting key else .given (some key, valueOf value)
  | none => .unknown

def argument (text : String) : Argument :=
  match text.toList with
  | ['-', '-'] => .endOfOptions
  | '-' :: '-' :: rest => longArgument rest
  | '-' :: letter :: value => shortArgument letter value
  | _ => .unknown

/-- Whether an argument can only be an option. -/
def startsOption (text : String) : Bool :=
  match text.toList with
  | '-' :: _ :: _ => true
  | _ => false

/-- The options on a command line, or nothing if it is not one. -/
def given? : List String → Option (List Given)
  | [] => some []
  | text :: rest =>
    match argument text with
    | .given item => (given? rest).map (item :: ·)
    | .awaiting key =>
      match rest with
      | [] => key.default?.map fun value => [(some key, value)]
      | value :: rest =>
        if startsOption value then do
          let value' ← key.default?
          (given? (value :: rest)).map ((some key, value') :: ·)
        else (given? rest).map ((some key, value) :: ·)
    | .endOfOptions => if rest.isEmpty then some [] else none
    | .unknown => none

def readNumber? (text : String) : Option UInt64 :=
  (Text.Numeral.readWord? text.toList).map UInt64.ofNat

def Options.store? (options : Options) : Given → Option Options
  | (none, _) => some { options with saveConfig := true }
  | (some .config, value) => some { options with config := value }
  | (some .rules, value) => some { options with rules := some value }
  | (some .plies, value) => (readNumber? value).map fun n => { options with plies := some n }
  | (some .seed, value) => (readNumber? value).map fun n => { options with seed := some n }
  | (some .output, value) => some { options with output := some value }

/-- Reads a command line. -/
def Options.ofArguments? (arguments : List String) : Option Options := do
  let items ← given? arguments
  if (items.map (·.1)).Nodup then items.foldlM Options.store? {} else none

/-- The settings with those that the options give in their place. -/
def Options.override (options : Options) (settings : Settings) : Settings where
  rules := options.rules.getD settings.rules
  plies := options.plies.getD settings.plies
  seed := options.seed <|> settings.seed
  delayMilliseconds := settings.delayMilliseconds

end GridChess.Tool
