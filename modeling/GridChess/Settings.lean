import GridChess.Json.Schema
import GridChess.Json.Writer
import GridChess.RuleSet.Flat

/-!
# Settings

The settings of the dump tool and their JSON text. Every setting may be left out and then has
its default.
-/

set_option autoImplicit false

namespace GridChess

open Json

structure Settings where
  rules : String
  /-- How many moves to play. -/
  plies : UInt64
  seed : Option UInt64
  /-- How far the clock advances with every move. -/
  delayMilliseconds : UInt64
  deriving DecidableEq, Repr

namespace Settings

def default : Settings := ⟨RuleSet.Flat.name, 20, none, 2500⟩

def write (settings : Settings) : Writer :=
  Writer.object
    [("rule_set", Writer.text settings.rules),
     ("plies", Writer.natural settings.plies.toNat),
     ("seed", Writer.option (fun seed => Writer.natural seed.toNat) settings.seed),
     ("delay_ms", Writer.natural settings.delayMilliseconds.toNat)]

def schema : Schema Settings where
  name := "Config"
  blank := default
  fields :=
    [.of "rule_set" false readText fun settings rules => { settings with rules },
     .of "plies" false (readUnsigned "usize") fun settings plies => { settings with plies },
     .of "seed" false (readOption (readUnsigned "u64")) fun settings seed =>
      { settings with seed },
     .of "delay_ms" false (readUnsigned "u64") fun settings delayMilliseconds =>
      { settings with delayMilliseconds }]

def toJson (settings : Settings) : String := settings.write.document .indented

def ofJson (text : String) : Except Fault Settings := readAll schema.read text

end Settings

end GridChess
