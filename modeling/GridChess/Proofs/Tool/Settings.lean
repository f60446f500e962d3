import GridChess.Proofs.FileTree
import GridChess.Proofs.Outcome
import GridChess.Proofs.Settings.Json
import GridChess.Tool.Run

/-!
# Settings that last

On a disk that recalls what was written, settings that have been saved are loaded exactly as they
were. The settings of a run are the options that are given, for the others what the file tells, and
else the defaults (`Options.Effective`). Once they have been stored, runs without those options have
the same settings (`settings_persist`).
-/

set_option autoImplicit false

namespace GridChess

/-! ## Files -/

namespace Settings

variable {σ : Type} (disk : Disk (StateM σ)) (home : Option String)

/-- What a file gives. If there is none, nothing is given, and a file that cannot be read does not
give even that. -/
def FileGives (content : Except ReadFailure String) (members : List (String × List Char)) : Prop :=
  match content with
  | .ok text => TextGives text members
  | .error .missing => members = []
  | .error .unreadable => False

theorem FileGives.unique (content : Except ReadFailure String)
    (members members' : List (String × List Char)) (gives : FileGives content members)
    (gives' : FileGives content members') : members = members' := by
  cases content with
  | ok text =>
    obtain ⟨rest, places, _⟩ := gives
    obtain ⟨rest', places', _⟩ := gives'
    exact Json.Gives.unique _ _ members members' rest rest' places places'
  | error failure =>
    cases failure with
    | missing => exact Eq.trans gives (Eq.symm gives')
    | unreadable => exact absurd gives not_false

/-- What is loaded depends on the content of the file only. -/
theorem load_eq (path : String) (state : σ) :
    ((load disk home path).run state).1 =
      match ((disk.readText (Path.expandHome home path)).run state).1 with
      | .error .missing => .ok default
      | .error .unreadable => .error (.cannotRead (Path.expandHome home path))
      | .ok text => (ofJson text).mapError (.malformed (Path.expandHome home path)) := by
  unfold load
  rw [run_bind]
  cases ((disk.readText (Path.expandHome home path)).run state).1 with
  | error failure =>
    cases failure with
    | missing => rfl
    | unreadable => rfl
  | ok text =>
    dsimp only
    cases ofJson text with
    | ok settings => rfl
    | error fault => rfl

theorem told_default : Told [] default := ⟨rfl, rfl, rfl, rfl⟩

theorem load_told (path : String) (state : σ) (settings : Settings)
    (loaded : ((load disk home path).run state).1 = .ok settings) :
    ∃ members,
      FileGives ((disk.readText (Path.expandHome home path)).run state).1 members ∧
      Told members settings := by
  rw [load_eq] at loaded
  split at loaded
  · rename_i missing
    cases loaded
    rw [missing]
    exact ⟨[], rfl, told_default⟩
  · cases loaded
  · rename_i text content
    rw [content]
    cases read : ofJson text with
    | ok given =>
      rw [read] at loaded
      cases loaded
      exact ofJson_told text _ read
    | error fault =>
      rw [read] at loaded
      cases loaded

variable (recalls : disk.Recalls)

include recalls in
/-- The same home directory is put for a home sign on both ways. -/
theorem load_save (path : String) (settings : Settings) (state next : σ)
    (saved : (settings.save disk home path).run state = (.ok (), next)) :
    ((load disk home path).run next).1 = .ok settings := by
  unfold save at saved
  rw [run_bind] at saved
  cases made : ((makeParent disk (Path.expandHome home path)).run state).1 with
  | error fault =>
    rw [made] at saved
    cases saved
  | ok made' =>
    rw [made] at saved
    dsimp only at saved
    rw [run_bind] at saved
    cases written : (disk.writeText (Path.expandHome home path) settings.toJson).run
        ((makeParent disk (Path.expandHome home path)).run state).2 with
    | mk could after =>
      rw [written] at saved
      cases could with
      | false => cases saved
      | true =>
        cases saved
        rw [load_eq, recalls _ _ _ _ written]
        dsimp only
        rw [ofJson_toJson]
        rfl

end Settings

/-! ## Options -/

namespace Tool

/-- The value that is given, or what is told if none is. -/
def Chosen {β : Type} (given : Option β) (told : β → Prop) (value : β) : Prop :=
  match given with
  | some flag => value = flag
  | none => told value

/-- The settings of a run whose file has these members. -/
structure Options.Effective (options : Options) (members : List (String × List Char))
    (settings : Settings) : Prop where
  rules : Chosen options.rules
    (Json.Says members "rule_set" Json.readText Settings.default.rules) settings.rules
  plies : Chosen options.plies
    (Json.Says members "plies" (Json.readUnsigned "usize") Settings.default.plies) settings.plies
  seed : Chosen (options.seed.map some)
    (Json.Says members "seed" (Json.readOption (Json.readUnsigned "u64")) Settings.default.seed)
    settings.seed
  /-- There is no option for the delay. -/
  delay : Json.Says members "delay_ms" (Json.readUnsigned "u64")
    Settings.default.delayMilliseconds settings.delayMilliseconds

theorem chosen_getD {β : Type} (given : Option β) (told : β → Prop) (value : β)
    (tells : told value) : Chosen given told (given.getD value) := by
  cases given with
  | none => exact tells
  | some flag => rfl

theorem effective_override (options : Options) (members : List (String × List Char))
    (settings : Settings) (told : settings.Told members) :
    options.Effective members (options.override settings) where
  rules := chosen_getD options.rules _ settings.rules told.rules
  plies := chosen_getD options.plies _ settings.plies told.plies
  seed := by
    cases given : options.seed with
    | none =>
      unfold Options.override
      rw [given]
      exact told.seed
    | some seed =>
      unfold Options.override
      rw [given]
      rfl
  delay := told.delay

section

variable {σ : Type} (disk : Disk (StateM σ)) (home : Option String)

/-- Settings are those of the file under the options, or the fault of the file. -/
theorem settings_eq (options : Options) (state : σ) :
    ((options.settings disk home).run state).1 =
      (((Settings.load disk home options.config).run state).1.map options.override).mapError
        .settings := by
  unfold Options.settings
  rw [run_bind]
  cases ((Settings.load disk home options.config).run state).1 with
  | ok settings => rfl
  | error fault => rfl

theorem settings_effective (options : Options) (state : σ) (settings : Settings)
    (found : ((options.settings disk home).run state).1 = .ok settings) :
    ∃ members,
      (∀ other, Settings.FileGives
        ((disk.readText (Path.expandHome home options.config)).run state).1 other ↔
        other = members) ∧
      options.Effective members settings := by
  rw [settings_eq] at found
  cases loaded : ((Settings.load disk home options.config).run state).1 with
  | error fault =>
    rw [loaded] at found
    cases found
  | ok file =>
    rw [loaded] at found
    cases found
    obtain ⟨members, gives, told⟩ :=
      Settings.load_told disk home options.config state file loaded
    refine ⟨members, fun other => ⟨fun gives' => ?_, fun same => same ▸ gives⟩,
      effective_override options members file told⟩
    exact Settings.FileGives.unique _ other members gives' gives

/-- Options that give no settings leave those of the file as they are. -/
theorem override_of_none (options : Options) (settings : Settings) (rules : options.rules = none)
    (plies : options.plies = none) (seed : options.seed = none) :
    options.override settings = settings := by
  unfold Options.override
  rw [rules, plies, seed]
  rfl

theorem saved_of_stored (options : Options) (settings : Settings) (state next : σ)
    (asked : options.saveConfig = true)
    (stored : (storeSettings disk home options settings).run state = (.ok (), next)) :
    (settings.save disk home options.config).run state = (.ok (), next) := by
  unfold storeSettings at stored
  rw [if_pos asked, run_bind] at stored
  cases saved : (settings.save disk home options.config).run state with
  | mk outcome after =>
    rw [saved] at stored
    cases outcome with
    | ok done =>
      cases stored
      rfl
    | error fault => cases stored

end

/-- On a disk that gives back what was written last, settings that are saved are loaded again as
they are, whatever they are and wherever they are saved. The settings of a run are, one by one, the
option if it is given, or what the file tells, or the default. Once a run has stored its settings,
each run with the same file and without those options has the same settings. -/
theorem settings_persist {σ : Type} (disk : Disk (StateM σ)) (recalls : disk.Recalls)
    (home : Option String) :
    (∀ path settings state next,
      (Settings.save disk home path settings).run state = (.ok (), next) →
      ((Settings.load disk home path).run next).1 = .ok settings) ∧
    (∀ (options : Options) state settings,
      ((options.settings disk home).run state).1 = .ok settings →
      ∃ members,
        (∀ other, Settings.FileGives
          ((disk.readText (Path.expandHome home options.config)).run state).1 other ↔
          other = members) ∧
        options.Effective members settings) ∧
    (∀ (options later : Options) settings state next, options.saveConfig = true →
      (storeSettings disk home options settings).run state = (.ok (), next) →
      later.config = options.config → later.rules = none → later.plies = none →
      later.seed = none → ((later.settings disk home).run next).1 = .ok settings) := by
  refine ⟨Settings.load_save disk home recalls, settings_effective disk home, ?_⟩
  intro options later settings state next asked stored same rules plies seed
  have saved := saved_of_stored disk home options settings state next asked stored
  rw [settings_eq, same, Settings.load_save disk home recalls _ settings state next saved]
  exact congrArg Except.ok (override_of_none later settings rules plies seed)

/-- A rule set whose name has to be escaped, in a file below the home directory. -/
theorem settings_persist_escaped :
    ∃ next,
      (storeSettings FileTree.disk (some "/") { config := "~/s.json", saveConfig := true }
        ⟨"\"\n", 3, some 7, 100⟩).run ⟨[], []⟩ = (.ok (), next) ∧
      ((({ config := "~/s.json" } : Options).settings FileTree.disk (some "/")).run next).1 =
        .ok ⟨"\"\n", 3, some 7, 100⟩ := by
  have home : Path.expandHome (some "/") "~/s.json" = "/s.json" := by decide
  have parent : Path.parent? "/s.json" = some "/" := by decide
  have around : Path.withParents "/" = [] := by
    unfold Path.withParents
    rw [Path.withParentsChars]
    rfl
  have stored : (storeSettings FileTree.disk (some "/") { config := "~/s.json", saveConfig := true }
      ⟨"\"\n", 3, some 7, 100⟩).run ⟨[], []⟩ = (.ok (), ⟨[], [(["s.json".toList],
        .file (Text.octets (Settings.toJson ⟨"\"\n", 3, some 7, 100⟩)))]⟩) := by
    unfold storeSettings Settings.save Settings.makeParent Disk.makeDirectories
    dsimp only
    rw [home, parent]
    dsimp only
    rw [around]
    rfl
  exact ⟨_, stored, (settings_persist FileTree.disk FileTree.recalls_disk (some "/")).2.2
    _ _ _ _ _ rfl stored rfl rfl rfl rfl⟩

end Tool

end GridChess
