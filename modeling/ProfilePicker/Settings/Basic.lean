import ProfilePicker.Locations
import ProfilePicker.Settings.Json
import ProfilePicker.Settings.Toml
import ProfilePicker.Text.LetterCase

/-!
# The program's settings

Three settings in three layers: the user's own settings file, a file named on the command line,
and environment variables. A later layer wins for each setting by itself, and only the value
that wins has to be a text. The user's own file may be missing; one that is named may not.
-/
namespace ProfilePicker

/-- The settings of the program. -/
structure Settings where
  /-- Where the credentials file is. -/
  credentialsFile : Option Text
  /-- Where the config file is. -/
  configFile : Option Text
  /-- The region to suggest. -/
  defaultRegion : Option Text
deriving Repr, DecidableEq

namespace Settings

/-! ## Faults -/

/-- The fault of a settings file in no known format. -/
def unknownFormat (path : Text) : Fault :=
  .configuration ("configuration file \"" ++ path ++ "\" is not of a supported file format")

/-- The fault of a settings file that does not exist. -/
def noSuchFile (path : Text) : Fault :=
  .configuration ("configuration file \"" ++ path ++ "\" not found")

/-- The fault of a settings file with a mistake in it. -/
def malformed (origin : Text) : Fault := .configuration ("malformed settings in " ++ origin)

/-- How messages name the file that something comes from. -/
def fromFile (origin : Option Text) : Text :=
  match origin with
  | some file => " in " ++ file
  | none => []

/-- The fault of a setting that is no text. -/
def noText (found key : Text) (origin : Option Text) : Fault :=
  .configuration ("invalid type: " ++ found ++ ", expected a string for key `" ++ key ++ "`" ++
    fromFile origin)

/-- The fault of a settings file that is no table as a whole. -/
def noTable (found origin : Text) : Fault :=
  .configuration ("invalid type: " ++ found ++ ", expected a map" ++ fromFile (some origin) ++
    fromFile (some origin))

/-! ## Formats -/

/-- A format of settings files. -/
structure Format where
  /-- The extensions of its files. -/
  extensions : List Text
  /-- The layer of a text that comes from a file. -/
  read : Text → Text → Except Fault Entries

/-- What a value is called when a table is wanted. -/
def valueName : Value → Text
  | .absent => "unit value"
  | .scalar shown => "string " ++ shown.quoted
  | .list _ => "sequence"
  | .table _ => "map"

namespace Format

/-- Settings in TOML. -/
def toml : Format where
  extensions := ["toml"]
  read origin s :=
    match Toml.read? (some origin) s with
    | some entries => .ok entries
    | none => .error (malformed origin)

/-- Settings in JSON. -/
def json : Format where
  extensions := ["json"]
  read origin s :=
    match Json.read? (some origin) s with
    | some (.table entries) => .ok entries
    | some other => .error (noTable (valueName other) origin)
    | none => .error (malformed origin)

/-- The formats whose texts are read here. Others can be put beside them, and which of two files is
taken that differ in nothing but the extension depends on the order. -/
def known : List Format := [toml, json]

end Format

/-! ## Files -/

/-- Whether a file stands where a path leads. -/
def isFile (d : Disk) (path : Text) : Bool :=
  match d.look? path with
  | some (.file _ _) => true
  | _ => false

/-- A settings path as an absolute one. -/
def wholePath (d : Disk) (path : Text) : Text := Path.join (Path.ofPlace d.directory) path

/-- A path whose last name has an extension to put another one in the place of. An extension
that it has of its own becomes part of the name. -/
def withRoom (path : Text) : Text :=
  match Path.extension? path with
  | some _ => path ++ ".placeholder"
  | none => Path.withExtension path "placeholder"

section Formats

variable (formats : List Format)

/-- The format of an extension. -/
def formatOf? (e : Text) : Option Format := formats.find? (e ∈ ·.extensions)

/-- The paths that a path leads to when the extensions of each format are added. -/
def extendedPaths (path : Text) : List (Text × Format) :=
  formats.flatMap fun format =>
    format.extensions.map fun e => (Path.withExtension (withRoom path) e, format)

/-- The settings file that a path names, as an absolute path: the file itself, if its extension
tells its format, or the file with an extension added. -/
def locate (d : Disk) (path : Text) : Except Fault (Text × Format) :=
  let whole := wholePath d path
  if isFile d whole then
    match formatOf? formats ((Path.extension? whole).getD []) with
    | some format => .ok (whole, format)
    | none => .error (unknownFormat whole)
  else
    match (extendedPaths formats whole).find? fun (extended, _) => isFile d extended with
    | some found => .ok found
    | none => .error (noSuchFile path)

/-- The paths where the file that a settings path names may be. -/
def candidates (d : Disk) (path : Text) : List Text :=
  wholePath d path :: (extendedPaths formats (wholePath d path)).map (·.1)

end Formats

/-- The text of a settings file. What is no text in it is replaced, and a mark of the byte order
at the start is dropped. -/
def textOf (d : Disk) (path : Text) : Text :=
  match d.content path with
  | .error _ => []
  | .ok content =>
    match content.characters with
    | '\ufeff' :: rest => rest
    | s => s

/-- The layer of a file that has been found. -/
def readFile (d : Disk) (found : Text × Format) : Except Fault Entries :=
  found.2.read (Path.relativeTo d.directory found.1) (textOf d found.1)

/-- The layer of a file that the user names. -/
def namedLayer (formats : List Format) (d : Disk) (path : Text) : Except Fault Entries := do
  readFile d (← locate formats d path)

/-- The layer of a file that need not exist. -/
def optionalLayer (formats : List Format) (d : Disk) (path : Text) : Except Fault Entries :=
  match locate formats d path with
  | .ok found => readFile d found
  | .error _ => .ok []

/-- Where the user's own settings file is. -/
def userFile? (env : Environment) : Option Text :=
  let directory :=
    ((env.get? "XDG_CONFIG_HOME").filter Path.isAbsolute).or
      (env.home?.map fun home => Path.join home ".config")
  directory.map fun path => Path.join (Path.join path "aws-context") "settings.toml"

/-! ## Environment variables -/

/-- What the names of variables for settings begin with, in small letters. -/
def variableStart : Text := "aws_context_"

/-- The layer of the environment variables. -/
def variableLayer (env : Environment) : Entries :=
  env.bindings.filterMap fun (name, v) =>
    (Text.dropStart? variableStart name.toLower).map fun key => (key, .scalar v)

/-! ## All layers -/

/-- The text of a setting, if it has one. -/
def textAt (entries : Entries) (key : Text) : Except Fault (Option Text) :=
  match entries.get? key with
  | none => .ok none
  | some .absent => .ok none
  | some (.scalar shown) => .ok (some shown)
  | some (.list origin) => .error (noText "sequence" key origin)
  | some (.table _) => .error (noText "map" key none)

/-- The settings that the layers give, each laid over those before it. -/
def ofLayers (layers : List Entries) : Except Fault Settings := do
  let entries := (layers.foldl Value.overlayLayer (.table [])).entries
  return {
    credentialsFile := ← textAt entries "credentials_file"
    configFile := ← textAt entries "config_file"
    defaultRegion := ← textAt entries "default_region"
  }

/-- The settings of a run: from the user's own file, a file that is named, and the variables. -/
def load (d : Disk) (env : Environment) (named : Option Text)
    (formats : List Format := Format.known) : Except Fault Settings := do
  let own ← match userFile? env with
    | some path => optionalLayer formats d path
    | none => .ok []
  let further ← match named with
    | some path => namedLayer formats d path
    | none => .ok []
  ofLayers [own, further, variableLayer env]

end Settings

end ProfilePicker
