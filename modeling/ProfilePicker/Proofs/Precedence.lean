import ProfilePicker.Command
import ProfilePicker.Proofs.Outcomes
import ProfilePicker.Proofs.Overlays

/-!
# Whose word counts for a location

Five sources may say where a shared file is: the command line, a variable of the program, the file
of settings that is named, the user's own one, and the usual variable. The first of them that does
settles it, and without any the file is in its usual place below the home directory. What the
sources say of the other file, or of the region, has no influence.
-/
namespace ProfilePicker

open Settings (Says)

/-! ## The two files -/

/-- One of the two shared files. -/
inductive SharedFile where
  /-- The file of the keys. -/
  | credentials
  /-- The file of the regions. -/
  | config

namespace SharedFile

/-- The name in the usual place. -/
def name : SharedFile → Text
  | credentials => "credentials"
  | config => "config"

/-- The setting for the location. -/
def key : SharedFile → Text
  | credentials => "credentials_file"
  | config => "config_file"

/-- The variable of the program for the location. -/
def ownVariable : SharedFile → Text
  | credentials => "AWS_CONTEXT_CREDENTIALS_FILE"
  | config => "AWS_CONTEXT_CONFIG_FILE"

/-- The usual variable for the location. -/
def usualVariable : SharedFile → Text
  | credentials => "AWS_SHARED_CREDENTIALS_FILE"
  | config => "AWS_CONFIG_FILE"

/-- The location on the command line. -/
def given : SharedFile → Arguments → Option Text
  | credentials, a => a.credentialsFile
  | config, a => a.configFile

/-- The location in the settings. -/
def setting : SharedFile → Settings → Option Text
  | credentials, s => s.credentialsFile
  | config, s => s.configFile

/-- The location that is settled. -/
def path : SharedFile → Locations → Text
  | credentials, l => l.credentials
  | config, l => l.config

/-- The usual place below a home directory. -/
def usualPath (f : SharedFile) (home : Text) : Text := Path.join (Path.join home ".aws") f.name

end SharedFile

/-! ## The sources -/

/-- What a run of the program begins with. -/
structure Surroundings where
  /-- The disk. -/
  disk : Disk
  /-- The environment. -/
  env : Environment
  /-- What the arguments say. -/
  arguments : Arguments
  /-- The formats in which settings files are read. -/
  formats : List Settings.Format

/-- What each source says about one location, if anything. -/
structure Sources where
  /-- The command line. -/
  argument : Option Text
  /-- The variable of the program. -/
  ownVariable : Option Text
  /-- The settings file that is named on the command line. -/
  namedFile : Option Text
  /-- The user's own settings file. -/
  ownFile : Option Text
  /-- The usual variable. -/
  usualVariable : Option Text

/-- The first source that says something, in the order of precedence. -/
def Sources.first? (c : Sources) : Option Text :=
  [c.argument, c.ownVariable, c.namedFile, c.ownFile, c.usualVariable].findSome? id

/-- One source comes before the next. -/
theorem Sources.first?_eq (c : Sources) : c.first? =
    (c.argument.or (c.ownVariable.or (c.namedFile.or c.ownFile))).or c.usualVariable := by
  rcases c with ⟨_ | _, _ | _, _ | _, _ | _, _ | _⟩ <;> rfl

/-- The value of the last variable with a name in any letter case. -/
def Environment.anyCase? (env : Environment) (name : Text) : Option Text :=
  (env.bindings.reverse.find? (·.1.toLower = name.toLower)).map (·.2)

/-- A variable counts when its value is not empty. -/
theorem Environment.filled?_eq_some_iff {env : Environment} {name value : Text} :
    env.filled? name = some value ↔ env.get? name = some value ∧ value ≠ [] := by
  rw [filled?, Option.filter_eq_some_iff, decide_eq_true_iff]

namespace Settings

/-- The layer of the user's own settings file. -/
def ownLayer (formats : List Format) (d : Disk) (env : Environment) : Except Fault Entries :=
  match userFile? env with
  | some path => optionalLayer formats d path
  | none => .ok []

/-- The layer of the settings file that is named, if one is. -/
def furtherLayer (formats : List Format) (d : Disk) (named : Option Text) :
    Except Fault Entries :=
  match named with
  | some path => namedLayer formats d path
  | none => .ok []

/-- What a layer that can be read says. -/
theorem exists_says_of_said? {read : Except Fault Entries} {key : Text} {said : Option Text}
    (answers : read.toOption.bind (said? key) = some said) :
    ∃ layer, read = .ok layer ∧ Says key layer said := by
  cases read with
  | error fault => cases answers
  | ok layer => exact ⟨layer, rfl, says_of_said? answers⟩

end Settings

/-- The sources of a location in some surroundings. Each of them leaves the location open or says
what it is; an empty value of the usual variable leaves it open. -/
structure SharedFile.SourcesOf (f : SharedFile) (w : Surroundings) (c : Sources) : Prop where
  /-- The command line says what the arguments have. -/
  argument : c.argument = f.given w.arguments
  /-- The letter case of the program's own variables does not matter. -/
  ownVariable : c.ownVariable = w.env.anyCase? f.ownVariable
  /-- The layer of the named file says it. -/
  namedFile : ∃ layer, Settings.furtherLayer w.formats w.disk w.arguments.settings = .ok layer ∧
    Says f.key layer c.namedFile
  /-- The layer of the user's own file says it. -/
  ownFile : ∃ layer, Settings.ownLayer w.formats w.disk w.env = .ok layer ∧
    Says f.key layer c.ownFile
  /-- The usual variable has a value that is not empty. -/
  usualVariable : ∀ path, c.usualVariable = some path ↔
    w.env.get? f.usualVariable = some path ∧ path ≠ []

namespace Surroundings

/-- The settings of a run. -/
def settings (w : Surroundings) : Except Fault Settings :=
  Settings.load w.disk w.env w.arguments.settings w.formats

/-- The settings of a run are loaded, and these are the locations that they lead to. -/
def Uses (w : Surroundings) (l : Locations) : Prop :=
  ∃ s, w.settings = .ok s ∧ Command.locations w.env w.arguments s = .ok l

/-- Locations are settled by precedence, each by its own sources. -/
structure Settles (w : Surroundings) (home : Text) (l : Locations) : Prop where
  /-- The settings lead to them. -/
  uses : w.Uses l
  /-- Every run with these arguments selects there, whoever replies. -/
  selects : ∃ suggested, ∀ written prompt, Arguments.parse written = .ok w.arguments →
    Command.run w.disk w.env written prompt w.formats =
      ((Selection.run l suggested (Command.wishes w.arguments)).outcome prompt
        (.start w.disk)).map Command.outcomeOf id
  /-- The first source that says where a file is settles it, or else the home directory. -/
  first : ∀ (f : SharedFile) c, f.SourcesOf w c → f.path l = c.first?.getD (f.usualPath home)
  /-- In other surroundings with the same sources for a file, the file is in the same place,
  whatever else differs. -/
  apart : ∀ (w' : Surroundings) l' (f : SharedFile) c, w'.Uses l' → w'.env.home? = some home →
    f.SourcesOf w c → f.SourcesOf w' c → f.path l' = f.path l

end Surroundings

/-! ## What is loaded -/

/-- A computation that succeeds goes on from a result of its first part. -/
theorem exists_of_bind_eq_ok {ε α β : Type} {first : Except ε α} {next : α → Except ε β} {b : β}
    (done : first >>= next = .ok b) : ∃ a, first = .ok a ∧ next a = .ok b := by
  cases first with
  | error fault => cases done
  | ok a => exact ⟨a, rfl, done⟩

namespace Settings

variable {d : Disk} {env : Environment} {named : Option Text} {formats : List Format} {s : Settings}

/-- Settings are loaded as three layers. -/
theorem load_eq (d : Disk) (env : Environment) (named : Option Text) (formats : List Format) :
    load d env named formats = (do
      let own ← ownLayer formats d env
      let further ← furtherLayer formats d named
      ofLayers [own, further, variableLayer env]) := by
  unfold load ownLayer furtherLayer
  cases userFile? env <;> cases named <;> rfl

/-- The settings that are loaded come from three layers. -/
theorem exists_layers_of_load (loads : load d env named formats = .ok s) :
    ∃ own further, ownLayer formats d env = .ok own ∧ furtherLayer formats d named = .ok further ∧
      ofLayers [own, further, variableLayer env] = .ok s := by
  rw [load_eq] at loads
  obtain ⟨own, first, loads⟩ := exists_of_bind_eq_ok loads
  obtain ⟨further, second, made⟩ := exists_of_bind_eq_ok loads
  exact ⟨own, further, first, second, made⟩

/-- A setting has the text that all layers together give it. -/
theorem textAt_of_ofLayers {layers : List Entries} (made : ofLayers layers = .ok s)
    (f : SharedFile) :
    textAt (layers.foldl Value.overlayLayer (.table [])).entries f.key = .ok (f.setting s) := by
  obtain ⟨credentials, first, made⟩ := exists_of_bind_eq_ok made
  obtain ⟨config, second, made⟩ := exists_of_bind_eq_ok made
  obtain ⟨region, third, made⟩ := exists_of_bind_eq_ok made
  cases made
  cases f with
  | credentials => exact first
  | config => exact second

end Settings

/-! ## What the variables say -/

namespace SharedFile

/-- The key of a location stands for its own setting. -/
theorem plain_key (f : SharedFile) : Settings.Plain f.key := by
  cases f <;> rfl

/-- The name of the variable for a location is the key with the start of such names. -/
theorem toLower_ownVariable (f : SharedFile) :
    f.ownVariable.toLower = Settings.variableStart ++ f.key := by
  cases f <;> decide +kernel

end SharedFile

namespace Settings

variable {env : Environment} {f : SharedFile} {said : Option Text}

/-- A variable gives an entry when its name in small letters continues the start of such names. -/
theorem mem_variableLayer {e : Text × Value} : e ∈ variableLayer env ↔
    ∃ name v, (name, v) ∈ env.bindings ∧ name.toLower = variableStart ++ e.1 ∧
      e.2 = .scalar v := by
  obtain ⟨key, value⟩ := e
  simp only [variableLayer, List.mem_filterMap, Option.map_eq_some_iff,
    Text.dropStart?_eq_some_iff, Prod.exists, Prod.mk.injEq]
  grind

/-- While the variables say nothing about a location, none of them has its name. -/
theorem toLower_ne_of_silent (silent : ∀ e ∈ variableLayer env, ¬Concerns f.key e.1)
    {b : Text × Text} (member : b ∈ env.bindings) : b.1.toLower ≠ variableStart ++ f.key := by
  intro named
  refine silent (f.key, .scalar b.2) ?_ f.plain_key.concerns
  exact mem_variableLayer.2 ⟨b.1, b.2, member, named, rfl⟩

/-- The variables say what the last one with the name in any letter case says. -/
theorem eq_anyCase?_of_says (speaks : Says f.key (variableLayer env) said) :
    said = env.anyCase? f.ownVariable := by
  generalize whole : variableLayer env = layer at speaks
  rw [Environment.anyCase?, f.toLower_ownVariable]
  cases speaks with
  | nothing silent =>
    have unset : env.bindings.reverse.find? (·.1.toLower = variableStart ++ f.key) = none := by
      simpa using fun name v => toLower_ne_of_silent (whole ▸ silent) (b := (name, v))
    rw [unset, Option.map_none]
  | @text before after shown silent =>
    obtain ⟨front, back, cut, -, rest⟩ := List.filterMap_eq_append_iff.1 whole
    obtain ⟨between, ⟨name, v⟩, behind, rfl, -, here, rfl⟩ := List.filterMap_eq_cons_iff.1 rest
    obtain ⟨key, named, entry⟩ := Option.map_eq_some_iff.1 here
    cases entry
    have found : env.bindings.reverse.find? (·.1.toLower = variableStart ++ f.key) =
        some (name, shown) := by
      rw [List.find?_eq_some_iff_append]
      refine ⟨?_, behind.reverse, (front ++ between).reverse, ?_, ?_⟩
      · exact decide_eq_true (Text.dropStart?_eq_some_iff.1 named)
      · simp [cut]
      · intro b member
        have later : ∀ e ∈ variableLayer ⟨behind, none⟩, ¬Concerns f.key e.1 := silent
        simpa using toLower_ne_of_silent later (List.mem_reverse.1 member)
    rw [found, Option.map_some]

/-- Settings that can be loaded have a text or nothing from the variables. -/
theorem exists_says_of_textAt {below : Value} {found : Option Text}
    (reads : textAt (below.overlayLayer (variableLayer env)).entries f.key = .ok found) :
    ∃ said, Says f.key (variableLayer env) said := by
  rcases silent_or_exists_last f.key (variableLayer env) with
    silent | ⟨before, ⟨written, laid⟩, after, whole, concerns, silent⟩
  · exact ⟨none, .nothing silent⟩
  · obtain ⟨steps, leads⟩ := concerns.exists_steps
    obtain ⟨old, last⟩ := get?_overlayLayer_last below laid before leads silent
    rw [← whole] at last
    have member : (written, laid) ∈ variableLayer env := by
      rw [whole]
      exact List.mem_append_right _ List.mem_cons_self
    obtain ⟨-, v, -, -, rfl⟩ := mem_variableLayer.1 member
    -- A step further in would leave a table or a list, and these have no text.
    cases steps with
    | nil =>
      obtain rfl : written = f.key := eq_of_stepsOf leads
      rw [whole]
      exact ⟨some v, .text before silent⟩
    | cons step steps =>
      rw [textAt, last] at reads
      cases step with
      | key name => cases reads
      | element => cases old <;> cases reads

end Settings

/-! ## What is settled -/

/-- With a home directory, the location that is given settles where a file is, or else the usual
variable, or else the home directory. -/
theorem Locations.sharedFile_of_home {env : Environment} {home : Text}
    (known : env.home? = some home) (given : Option Text) (usual name : Text) :
    sharedFile env given usual name =
      .ok ((given.or (env.filled? usual)).getD (Path.join (Path.join home ".aws") name)) := by
  unfold sharedFile
  rw [known]
  cases given <;> cases env.filled? usual <;> rfl

namespace Command

variable {d : Disk} {env : Environment} {a : Arguments} {formats : List Settings.Format}
  {s : Settings} {l : Locations}

/-- With settings that lead to locations, the program selects there. -/
theorem run_of_load {written : List Text} (loads : Settings.load d env a.settings formats = .ok s)
    (settled : locations env a s = .ok l) (parsed : Arguments.parse written = .ok a)
    (prompt : Prompt) : run d env written prompt formats =
      ((Selection.run l (suggestion env a s) (wishes a)).outcome prompt (.start d)).map
        outcomeOf id := by
  have selects : (select env a formats).outcome prompt (.start d) =
      (Selection.run l (suggestion env a s) (wishes a)).outcome prompt (.start d) := by
    rw [select, Flow.outcome_bind_of_ok prompt _ (Flow.outcome_get prompt _)]
    have loads' : Settings.load (Session.start d).disk env a.settings formats = .ok s := loads
    simp only [loads', settled]
  rw [run, parsed]
  simp only [selects]
  rfl

end Command

namespace SharedFile

variable {f : SharedFile} {w : Surroundings} {c : Sources} {s : Settings} {home : Text}
  {l : Locations}

/-- The settings have what the first of their own sources says. -/
theorem SourcesOf.setting_eq (sources : f.SourcesOf w c) (loads : w.settings = .ok s) :
    f.setting s = c.ownVariable.or (c.namedFile.or c.ownFile) := by
  obtain ⟨own, further, first, second, made⟩ := Settings.exists_layers_of_load loads
  obtain ⟨layer, read, named⟩ := sources.namedFile
  obtain ⟨layer', read', users⟩ := sources.ownFile
  cases second.symm.trans read
  cases first.symm.trans read'
  have reads := Settings.textAt_of_ofLayers made f
  obtain ⟨said, varies⟩ := Settings.exists_says_of_textAt reads
  have last := Settings.get?_overlayLayers f.plain_key
    (.cons users (.cons named (.cons varies .nil))) (.table [])
  have found := Settings.textAt_of_get? (last.trans Option.or_none)
  rw [found, Except.ok.injEq] at reads
  rw [← reads, Settings.eq_anyCase?_of_says varies, ← sources.ownVariable]
  cases c.ownVariable <;> cases c.namedFile <;> cases c.ownFile <;> rfl

/-- The usual variable says what its value is, unless that is empty. -/
theorem SourcesOf.usualVariable_eq (sources : f.SourcesOf w c) :
    c.usualVariable = w.env.filled? f.usualVariable := by
  ext path
  rw [sources.usualVariable, Environment.filled?_eq_some_iff]

/-- With a home directory, settings lead to locations: what the arguments say, or the settings, or
the usual variable. -/
theorem exists_locations (known : w.env.home? = some home) (s : Settings) :
    ∃ l, Command.locations w.env w.arguments s = .ok l ∧ ∀ f : SharedFile, f.path l =
      (((f.given w.arguments).or (f.setting s)).or (w.env.filled? f.usualVariable)).getD
        (f.usualPath home) := by
  rw [Command.locations, Locations.discover, Locations.sharedFile_of_home known,
    Locations.sharedFile_of_home known]
  refine ⟨_, rfl, fun f => ?_⟩
  cases f <;> rfl

/-- The first source settles the location. -/
theorem SourcesOf.path_eq_first (sources : f.SourcesOf w c) (known : w.env.home? = some home)
    (uses : w.Uses l) : f.path l = c.first?.getD (f.usualPath home) := by
  obtain ⟨s, loads, settled⟩ := uses
  obtain ⟨l', settled', path⟩ := exists_locations known s
  cases settled.symm.trans settled'
  rw [path, sources.setting_eq loads, ← sources.argument, ← sources.usualVariable_eq,
    Sources.first?_eq]

end SharedFile

namespace Surroundings

variable {w : Surroundings} {home : Text} {s : Settings}

/-- **The first source that says where a file is settles it.** When the settings can be loaded and
the home directory is known, the program has locations for the two files. Each is what the first of
its sources says, in the order of precedence, or the usual place below the home directory; and it is
the same in all surroundings where these sources say the same, whatever is said of the other file
or the region. -/
theorem exists_settles (loads : w.settings = .ok s) (known : w.env.home? = some home) :
    ∃ l, w.Settles home l := by
  obtain ⟨l, settled, -⟩ := SharedFile.exists_locations known s
  have uses : w.Uses l := ⟨s, loads, settled⟩
  exact ⟨l, {
    uses := uses
    selects := ⟨Command.suggestion w.env w.arguments s, fun _ prompt parsed =>
      Command.run_of_load loads settled parsed prompt⟩
    first := fun f c sources => sources.path_eq_first known uses
    apart := fun w' l' f c uses' known' sources sources' => by
      rw [sources.path_eq_first known uses, sources'.path_eq_first known' uses'] }⟩

/-- Surroundings where the variables, the named file and the user's own file are at odds, and the
arguments are the given ones. -/
def atOdds (a : Arguments) : Surroundings where
  disk := ⟨["w"], fun place =>
    if place = ["home", "u", ".config", "aws-context", "settings.toml"] then
      some (.file (.text "credentials_file = \"/own/credentials\"\nconfig_file = \"/own/config\"\n")
        readableByAll)
    else if place = ["w", "more.toml"] then
      some (.file (.text "config_file = \"/named/config\"\n") readableByAll)
    else if place.length < 5 then some .directory
    else none⟩
  env := ⟨[("HOME", "/home/u"), ("AWS_CONTEXT_CREDENTIALS_FILE", "/var/credentials"),
    ("AWS_SHARED_CREDENTIALS_FILE", "/shared"), ("AWS_CONFIG_FILE", "")], none⟩
  arguments := a
  formats := Settings.Format.known

/-- A variable settles where the keys are, and the named file where the regions are. When the
arguments say where the regions are and name no file, the keys stay where they are. -/
theorem exists_settles_atOdds :
    let w := atOdds ⟨none, none, [], none, none, some "more.toml", 0⟩
    let w' := atOdds ⟨none, none, [], none, some "/given/config", none, 0⟩
    ∃ l, w.Settles "/home/u" l ∧ l.credentials = "/var/credentials" ∧ l.config = "/named/config" ∧
      ∃ l', w'.Uses l' ∧ l'.credentials = l.credentials ∧ l'.config = "/given/config" := by
  intro w w'
  have shared : some ("/shared" : Text) =
      w.env.filled? SharedFile.credentials.usualVariable := by decide +kernel
  have empty : none = w.env.filled? SharedFile.config.usualVariable := by decide +kernel
  have keys : SharedFile.credentials.SourcesOf w
      ⟨none, some "/var/credentials", none, some "/own/credentials", some "/shared"⟩ := {
    argument := rfl
    ownVariable := by decide +kernel
    namedFile := Settings.exists_says_of_said? (by decide +kernel)
    ownFile := Settings.exists_says_of_said? (by decide +kernel)
    usualVariable := fun _ => by rw [shared, Environment.filled?_eq_some_iff] }
  have regions : SharedFile.config.SourcesOf w
      ⟨none, none, some "/named/config", some "/own/config", none⟩ := {
    argument := rfl
    ownVariable := by decide +kernel
    namedFile := Settings.exists_says_of_said? (by decide +kernel)
    ownFile := Settings.exists_says_of_said? (by decide +kernel)
    usualVariable := fun _ => by rw [empty, Environment.filled?_eq_some_iff] }
  have keys' : SharedFile.credentials.SourcesOf w'
      ⟨none, some "/var/credentials", none, some "/own/credentials", some "/shared"⟩ :=
    { keys with namedFile := Settings.exists_says_of_said? (by decide +kernel) }
  have loads : w.settings =
      .ok ⟨some ("/var/credentials" : Text), some ("/named/config" : Text), none⟩ := by
    decide +kernel
  have known : w.env.home? = some ("/home/u" : Text) := by decide +kernel
  obtain ⟨l, settles⟩ := exists_settles loads known
  have uses' : w'.Uses ⟨"/var/credentials", "/given/config"⟩ :=
    ⟨⟨some ("/var/credentials" : Text), some ("/own/config" : Text), none⟩, by decide +kernel,
      by decide +kernel⟩
  exact ⟨l, settles, settles.first .credentials _ keys, settles.first .config _ regions, _, uses',
    settles.apart w' _ .credentials _ uses' known keys keys', rfl⟩

end Surroundings

end ProfilePicker
