import GridChess.Proofs.Json.Members
import GridChess.Proofs.Json.Number
import GridChess.Settings

/-!
# Reading settings

Settings are read back from their JSON exactly, whatever their values (`ofJson_toJson`). Of any
other text that is read, each setting has the value that the text says under its name, or its
default (`ofJson_told`).
-/

set_option autoImplicit false

namespace GridChess

open Json

namespace Settings

theorem reads_seed (seed : Option UInt64) :
    Reads (readOption (readUnsigned "u64"))
      (Writer.option (fun seed => Writer.natural seed.toNat) seed) seed := by
  have reads := reads_option (readUnsigned "u64") (fun seed => Writer.natural seed.toNat) id
    (fun n => reads_unsigned "u64" n) (fun n => startsBut_natural 'n' n.toNat (by decide)) seed
  rwa [Option.map_id] at reads

/-- The fields of the settings as they are written. -/
def entries (settings : Settings) : List (Json.Entry Settings) :=
  [.of "rule_set" false readText (fun settings rules => { settings with rules })
    (Writer.text settings.rules) settings.rules (reads_text settings.rules),
   .of "plies" false (readUnsigned "usize") (fun settings plies => { settings with plies })
    (Writer.natural settings.plies.toNat) settings.plies (reads_unsigned "usize" settings.plies),
   .of "seed" false (readOption (readUnsigned "u64")) (fun settings seed => { settings with seed })
    (Writer.option (fun seed => Writer.natural seed.toNat) settings.seed) settings.seed
    (reads_seed settings.seed),
   .of "delay_ms" false (readUnsigned "u64")
    (fun settings delayMilliseconds => { settings with delayMilliseconds })
    (Writer.natural settings.delayMilliseconds.toNat) settings.delayMilliseconds
    (reads_unsigned "u64" settings.delayMilliseconds)]

theorem distinct : (schema.fields.map Field.name).Nodup := by decide

theorem reads (settings : Settings) : Reads schema.read settings.write settings :=
  reads_record schema settings.entries settings rfl distinct rfl

theorem ofJson_toJson (settings : Settings) : ofJson settings.toJson = .ok settings :=
  readAll_document schema.read settings.write settings settings.reads .indented

/-! ## Other texts -/

theorem takesValue_schema :
    ∀ field ∈ schema.fields, ∀ record, TakesValue (field.read record) := by
  simp only [schema, List.forall_mem_cons, List.not_mem_nil, false_implies, implies_true, and_true]
  exact ⟨takesValue_of _ _ _ _ takes_text, takesValue_of _ _ _ _ (takes_unsigned _),
    takesValue_of _ _ _ _ (takes_option _ (takes_unsigned _)),
    takesValue_of _ _ _ _ (takes_unsigned _)⟩

/-- Each of the settings is what the members tell of it, or else its default. -/
structure Told (members : List (String × List Char)) (settings : Settings) : Prop where
  rules : Says members "rule_set" readText default.rules settings.rules
  plies : Says members "plies" (readUnsigned "usize") default.plies settings.plies
  seed : Says members "seed" (readOption (readUnsigned "u64")) default.seed settings.seed
  delay : Says members "delay_ms" (readUnsigned "u64") default.delayMilliseconds
    settings.delayMilliseconds

theorem views_rules : Views schema "rule_set" readText rules := by
  refine views_of schema [] _ "rule_set" false readText _ rules rfl distinct
    (fun _ _ => rfl) ?_
  simp only [List.nil_append, List.forall_mem_cons]
  refine ⟨?_, ?_, ?_, nofun⟩ <;> exact keeps_of rules _ _ _ _ fun _ _ => rfl

theorem views_plies : Views schema "plies" (readUnsigned "usize") plies := by
  refine views_of schema [_] _ "plies" false (readUnsigned "usize") _ plies rfl distinct
    (fun _ _ => rfl) ?_
  simp only [List.nil_append, List.cons_append, List.forall_mem_cons]
  refine ⟨?_, ?_, ?_, nofun⟩ <;> exact keeps_of plies _ _ _ _ fun _ _ => rfl

theorem views_seed : Views schema "seed" (readOption (readUnsigned "u64")) seed := by
  refine views_of schema [_, _] _ "seed" false (readOption (readUnsigned "u64")) _ seed
    rfl distinct (fun _ _ => rfl) ?_
  simp only [List.nil_append, List.cons_append, List.forall_mem_cons]
  refine ⟨?_, ?_, ?_, nofun⟩ <;> exact keeps_of seed _ _ _ _ fun _ _ => rfl

theorem views_delay : Views schema "delay_ms" (readUnsigned "u64") delayMilliseconds := by
  refine views_of schema [_, _, _] _ "delay_ms" false (readUnsigned "u64") _ delayMilliseconds
    rfl distinct (fun _ _ => rfl) ?_
  simp only [List.nil_append, List.cons_append, List.forall_mem_cons]
  refine ⟨?_, ?_, ?_, nofun⟩ <;> exact keeps_of delayMilliseconds _ _ _ _ fun _ _ => rfl

theorem told_of_fills (members : List (String × List Char)) (settings : Settings)
    (fills : Fills schema [] default members settings) : Told members settings where
  rules := (Fills.tells schema _ _ _ views_rules [] _ _ _ fills).2 List.not_mem_nil
  plies := (Fills.tells schema _ _ _ views_plies [] _ _ _ fills).2 List.not_mem_nil
  seed := (Fills.tells schema _ _ _ views_seed [] _ _ _ fills).2 List.not_mem_nil
  delay := (Fills.tells schema _ _ _ views_delay [] _ _ _ fills).2 List.not_mem_nil

/-- The text of settings gives these places, and nothing but space after them. -/
def TextGives (text : String) (members : List (String × List Char)) : Prop :=
  ∃ rest, Gives (schema.fields.map Field.name) text.toList members rest ∧ skipSpace rest = []

/-- What is read is what the text tells. -/
theorem ofJson_told (text : String) (settings : Settings) (read : ofJson text = .ok settings) :
    ∃ members, TextGives text members ∧ Told members settings := by
  unfold ofJson readAll at read
  obtain ⟨⟨value, rest⟩, first, read⟩ := bind_eq_ok _ _ _ read
  dsimp only at read
  split at read
  · rename_i blank
    cases read
    obtain ⟨members, gives, fills⟩ :=
      read_fills schema takesValue_schema distinct settings text.toList rest first
    exact ⟨members, ⟨rest, gives, List.isEmpty_iff.mp blank⟩, told_of_fills members settings fills⟩
  · cases read

end Settings

end GridChess
