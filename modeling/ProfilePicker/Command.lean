import ProfilePicker.Arguments
import ProfilePicker.Selection
import ProfilePicker.Settings.Basic

/-!
# The command

A whole run of the program: the arguments, the settings and the environment say where the
shared files are and what is suggested, and then a profile and its region are selected. The
context and its description are the output. A cancellation ends the run quietly, any other
fault with a message, and each of them with an exit status of its own.
-/
namespace ProfilePicker.Command

/-- What a run leaves behind besides the disk. -/
structure Outcome where
  /-- The exit status. -/
  status : Nat
  /-- The output. -/
  output : Text
  /-- The messages about faults. -/
  errors : Text
deriving Repr, DecidableEq

/-- The exit status of a run that succeeds. -/
def success : Nat := 0

/-- The exit status of a run that fails. -/
def failure : Nat := 1

/-- The exit status of a run with arguments that mean nothing. -/
def misuse : Nat := 2

/-- The exit status of a run that the user interrupts. -/
def interrupted : Nat := 130

/-- The settings that count for a run, those of the arguments first. -/
def locations (env : Environment) (a : Arguments) (s : Settings) : Except Fault Locations :=
  Locations.discover env (a.credentialsFile.or s.credentialsFile) (a.configFile.or s.configFile)

/-- The region of the environment. -/
def regionOf (env : Environment) : Text :=
  ((env.get? "AWS_REGION").or (env.get? "AWS_DEFAULT_REGION")).getD []

/-- The region to suggest for a profile without one: that of the settings, or else that of the
environment unless a region is given. -/
def suggestion (env : Environment) (a : Arguments) (s : Settings) : Text :=
  match s.defaultRegion with
  | some region => region
  | none => if a.region.isSome then [] else regionOf env

/-- The paths that a run may look at, as far as the disk tells which they are. -/
def paths (d : Disk) (env : Environment) (a : Arguments)
    (formats : List Settings.Format := Settings.Format.known) : List Text :=
  let named := (Settings.userFile? env).toList ++ a.settings.toList
  let found : Except Fault Locations := do
    locations env a (← Settings.load d env a.settings formats)
  named.flatMap (Settings.candidates formats d) ++
    match found with
    | .ok l => [l.credentials, l.config]
    | .error _ => []

/-- What the arguments ask for. -/
def wishes (a : Arguments) : Wishes := ⟨a.profile, a.region, a.description⟩

/-- Select a profile and a region as the arguments ask. -/
def select (env : Environment) (a : Arguments)
    (formats : List Settings.Format := Settings.Format.known) : Flow (Context × Text) := do
  match Settings.load (← get).disk env a.settings formats with
  | .error fault => throw fault
  | .ok s =>
    match locations env a s with
    | .error fault => throw fault
    | .ok l => Selection.run l (suggestion env a s) (wishes a)

/-- The output for a context and its description. -/
def outputOf (selected : Context × Text) : Text :=
  selected.1.toJsonText ++ "\n" ++ selected.2 ++ "\n"

/-- How a run ends that has selected something or failed. -/
def outcomeOf : Except Fault (Context × Text) → Outcome
  | .ok selected => ⟨success, outputOf selected, []⟩
  | .error .canceled => ⟨interrupted, [], []⟩
  | .error fault => ⟨failure, [], "error: " ++ fault.message ++ "\n"⟩

/-- How a run ends that goes no further than its arguments. -/
def outcomeOfStop (stop : Arguments.Stop) : Outcome :=
  let message := stop.message Arguments.fileName
  match stop with
  | .help | .version => ⟨success, message, []⟩
  | _ => ⟨misuse, [], message ++ "\n"⟩

/-- A run of the program on a willing host, and the state it leaves. -/
def run (d : Disk) (env : Environment) (arguments : List Text) (prompt : Prompt)
    (formats : List Settings.Format := Settings.Format.known) : Outcome × Session :=
  match Arguments.parse arguments with
  | .error stop => (outcomeOfStop stop, .start d)
  | .ok a =>
    let (selected, s) := (select env a formats).outcome prompt (.start d)
    (outcomeOf selected, s)

end ProfilePicker.Command
