import ProfilePicker.Store

/-!
# Where the shared files are

A location that the user gives wins. Without one, an environment variable that is not empty
names the file, and otherwise it is in its usual place below the home directory.
-/
namespace ProfilePicker

/-- The environment variables of the program. -/
structure Environment where
  /-- The variables that are set, with their values. -/
  bindings : List (Text × Text)
  /-- The home directory of the account, for when no variable names one. -/
  accountHome : Option Text

namespace Environment

/-- The value of a variable. -/
def get? (env : Environment) (name : Text) : Option Text :=
  (env.bindings.find? (·.1 = name)).map (·.2)

/-- The value of a variable, unless it is empty. -/
def filled? (env : Environment) (name : Text) : Option Text :=
  (env.get? name).filter (· ≠ [])

/-- The home directory. -/
def home? (env : Environment) : Option Text := (env.filled? "HOME").or env.accountHome

end Environment

/-- The paths of the two shared files. -/
structure Locations where
  /-- The file of the keys. -/
  credentials : Text
  /-- The file of the regions. -/
  config : Text
deriving Repr, DecidableEq

namespace Locations

/-- The path of one shared file: the one that is given, or that of its usual variable, or the one of
its name in the usual place. -/
def sharedFile (env : Environment) (given : Option Text) (usual name : Text) :
    Except Fault Text :=
  match given with
  | some path => .ok path
  | none =>
    match env.filled? usual with
    | some path => .ok path
    | none =>
      match env.home? with
      | some home => .ok (Path.join (Path.join home ".aws") name)
      | none => .error (.configuration "unable to resolve home directory")

/-- The paths of both shared files, each settled on its own. -/
def discover (env : Environment) (credentials config : Option Text) :
    Except Fault Locations := do
  let credentials ← sharedFile env credentials "AWS_SHARED_CREDENTIALS_FILE" "credentials"
  let config ← sharedFile env config "AWS_CONFIG_FILE" "config"
  return ⟨credentials, config⟩

/-- The store of the keys, for the eyes of its owner only. -/
def credentialsStore (l : Locations) : Store := ⟨l.credentials, true⟩

/-- The store of the regions. -/
def configStore (l : Locations) : Store := ⟨l.config, false⟩

end Locations

end ProfilePicker
