import ProfilePicker.Text.Control
import ProfilePicker.Text.Line

/-!
# The command line

The options of the program and how a list of arguments is read. An option with a value takes
it from the same argument or from the next one; short options that stand alone may share an
argument. An option waits for its value until the next argument is read, so what comes after
it may be at fault before the option itself is.
-/
namespace ProfilePicker

/-- An option that takes a value. -/
inductive ValueOption where
  | profile
  | region
  | description
  | credentialsFile
  | configFile
  | settings
deriving Repr, DecidableEq

/-- An option that stands alone. -/
inductive Flag where
  | verbose
  | help
  | version
deriving Repr, DecidableEq

namespace ValueOption

/-- The long name. -/
def long : ValueOption → Text
  | profile => "profile"
  | region => "region"
  | description => "description"
  | credentialsFile => "credentials-file"
  | configFile => "config-file"
  | settings => "settings"

/-- What stands for the value in messages. -/
def placeholder : ValueOption → Text
  | profile => "PROFILE"
  | region => "REGION"
  | description => "DESCRIPTION"
  | credentialsFile => "CREDENTIALS_FILE"
  | configFile => "CONFIG_FILE"
  | settings => "SETTINGS"

/-- Whether the value is a path, which cannot be empty. -/
def isPath : ValueOption → Bool
  | credentialsFile | configFile | settings => true
  | profile | region | description => false

/-- All of them. -/
def all : List ValueOption :=
  [profile, region, description, credentialsFile, configFile, settings]

/-- How messages show the option. -/
def shown (o : ValueOption) : Text := "--" ++ o.long ++ " <" ++ o.placeholder ++ ">"

end ValueOption

namespace Flag

/-- The long name. -/
def long : Flag → Text
  | verbose => "verbose"
  | help => "help"
  | version => "version"

/-- All of them. -/
def all : List Flag := [verbose, help, version]

/-- How messages show the option. -/
def shown : Flag → Text
  | verbose => "--verbose..."
  | help => "--help"
  | version => "--version"

end Flag

/-- An option of either kind. -/
inductive CommandOption where
  /-- One that takes a value. -/
  | value (o : ValueOption)
  /-- One that stands alone. -/
  | flag (f : Flag)
deriving Repr, DecidableEq

namespace CommandOption

/-- The option of a long name; no name is abbreviated. -/
def ofLong? (name : Text) : Option CommandOption :=
  ((ValueOption.all.find? (·.long = name)).map value).or ((Flag.all.find? (·.long = name)).map flag)

/-- The option of a letter. -/
def ofShort? (letter : Char) : Option CommandOption :=
  if letter = 'p' then some (value .profile)
  else if letter = 'r' then some (value .region)
  else if letter = 'd' then some (value .description)
  else if letter = 'v' then some (flag .verbose)
  else if letter = 'h' then some (flag .help)
  else if letter = 'V' then some (flag .version)
  else none

end CommandOption

/-- What the arguments of a run say. -/
structure Arguments where
  /-- The profile to use. -/
  profile : Option Text
  /-- The region to use. -/
  region : Option Text
  /-- What the context is for. -/
  description : Text
  /-- Where the credentials file is. -/
  credentialsFile : Option Text
  /-- Where the config file is. -/
  configFile : Option Text
  /-- Where further settings are. -/
  settings : Option Text
  /-- How often more log lines are asked for. -/
  verbose : Nat
deriving Repr, DecidableEq

namespace Arguments

/-- Why the arguments do not lead to a run. -/
inductive Stop where
  /-- The help is asked for. -/
  | help
  /-- The version is asked for. -/
  | version
  /-- No option is written like this, and nothing else is expected. -/
  | unknown (argument : Text)
  /-- An option lacks its value. -/
  | missingValue (o : ValueOption)
  /-- An option is given twice. -/
  | repeated (o : ValueOption)
  /-- An option that stands alone is given a value. -/
  | unexpectedValue (value : Text) (f : Flag)
deriving Repr, DecidableEq

/-- The name of the program as a command. -/
def commandName : Text := "aws-context"

/-- The name of the program as a file. -/
def fileName : Text := "aws_context"

/-- The name and version of the program. -/
def versionText : Text := fileName ++ " 0.1.0\n"

/-- The help of the program, which is started by the given name. -/
def helpText (name : Text) : Text :=
  "Usage: " ++ name ++ " [OPTIONS]\n" ++
  "\n" ++
  "Options:\n" ++
  "  -p, --profile <PROFILE>\n" ++
  "          AWS profile to use, must already exist unless it is \"default\"\n" ++
  "  -r, --region <REGION>\n" ++
  "          Region to use instead of prompting for one\n" ++
  "  -d, --description <DESCRIPTION>\n" ++
  "          Description of the context [default: \"\"]\n" ++
  "      --credentials-file <CREDENTIALS_FILE>\n" ++
  "          Shared credentials file, defaults to ~/.aws/credentials\n" ++
  "      --config-file <CONFIG_FILE>\n" ++
  "          Shared config file, defaults to ~/.aws/config\n" ++
  "      --settings <SETTINGS>\n" ++
  "          Additional settings file\n" ++
  "  -v, --verbose...\n" ++
  "          \n" ++
  "  -h, --help\n" ++
  "          Print help\n" ++
  "  -V, --version\n" ++
  "          Print version\n"

/-- The wording of a stop of the program with the given name; of a mistake, the first line. -/
def Stop.message (name : Text) : Stop → Text
  | help => helpText name
  | version => versionText
  | unknown argument =>
    firstLine ("error: unexpected argument '" ++ argument.withoutControls ++ "' found")
  | missingValue o => "error: a value is required for '" ++ o.shown ++ "' but none was supplied"
  | repeated o => "error: the argument '" ++ o.shown ++ "' cannot be used multiple times"
  | unexpectedValue value f =>
    firstLine ("error: unexpected value '" ++ value.withoutControls ++ "' for '" ++ f.shown ++
      "' found; no more were expected")
where
  /-- The first line of a text. -/
  firstLine (s : Text) : Text := (Text.lines s).headD []

/-- The arguments read so far. -/
structure Reading where
  /-- The values given. -/
  given : List (ValueOption × Text)
  /-- How often more log lines were asked for. -/
  verbose : Nat
  /-- The option whose value is not settled yet, and the value if it is there. -/
  pending : Option (ValueOption × Option Text)

/-- The most that is counted. -/
def mostVerbose : Nat := 255

namespace Reading

/-- Nothing read. -/
def start : Reading := ⟨[], 0, none⟩

/-- Settle the value of an option. -/
def accept (r : Reading) (o : ValueOption) (v : Text) : Except Stop Reading :=
  if r.given.any (·.1 = o) then .error (.repeated o)
  else if o.isPath && v.isEmpty then .error (.missingValue o)
  else .ok { r with given := r.given ++ [(o, v)] }

/-- Settle the option that waits. -/
def settle (r : Reading) : Except Stop Reading :=
  match r.pending with
  | none => .ok r
  | some (o, none) => .error (.missingValue o)
  | some (o, some v) => { r with pending := none }.accept o v

/-- An option with its value in the same argument. -/
def attached (r : Reading) (o : ValueOption) (v : Text) : Except Stop Reading := do
  (← r.settle).accept o v

/-- An option whose value is the next argument. -/
def await (r : Reading) (o : ValueOption) : Except Stop Reading := do
  return { (← r.settle) with pending := some (o, none) }

/-- An option that stands alone. -/
def raise (r : Reading) (f : Flag) : Except Stop Reading := do
  let r ← r.settle
  match f with
  | .verbose => return { r with verbose := min (r.verbose + 1) mostVerbose }
  | .help => throw .help
  | .version => throw .version

/-- A long option, after its dashes. -/
def long (r : Reading) (written : Text) : Except Stop Reading :=
  let (name, value) :=
    match Text.splitAt? '=' written with
    | some (name, value) => (name, some value)
    | none => (written, none)
  match CommandOption.ofLong? name, value with
  | some (.value o), some v => r.attached o v
  | some (.value o), none => r.await o
  | some (.flag f), some v => .error (.unexpectedValue v f)
  | some (.flag f), none => r.raise f
  | none, _ => .error (.unknown ("--" ++ name))

/-- Short options that share an argument, after its dash. -/
def short (r : Reading) : Text → Except Stop Reading
  | [] => .ok r
  | letter :: rest =>
    match CommandOption.ofShort? letter with
    | none => .error (.unknown ['-', letter])
    | some (.flag f) => do (← r.raise f).short rest
    | some (.value o) =>
      match rest with
      | [] => r.await o
      | '=' :: v => r.attached o v
      | v => r.attached o v

/-- An argument that is no option: the value of the option that waits for one. -/
def plain (r : Reading) (argument : Text) : Except Stop Reading :=
  match r.pending with
  | some (o, none) => .ok { r with pending := some (o, some argument) }
  | _ => .error (.unknown argument)

/-- The next argument. -/
def next (r : Reading) (argument : Text) : Except Stop Reading :=
  match argument with
  | '-' :: '-' :: written => r.long written
  | '-' :: letter :: rest => r.short (letter :: rest)
  | _ => r.plain argument

/-- All arguments from here on. After two dashes nothing is an option any more. -/
def finish (r : Reading) : List Text → Except Stop Reading
  | [] => r.settle
  | ['-', '-'] :: [] => r.settle
  | ['-', '-'] :: argument :: _ => .error (.unknown argument)
  | argument :: rest => do (← r.next argument).finish rest

/-- The value of an option. -/
def value? (r : Reading) (o : ValueOption) : Option Text :=
  (r.given.find? (·.1 = o)).map (·.2)

end Reading

/-- What a list of arguments says, or why it leads to no run. -/
def parse (arguments : List Text) : Except Stop Arguments := do
  let r ← Reading.start.finish arguments
  return {
    profile := r.value? .profile
    region := r.value? .region
    description := (r.value? .description).getD []
    credentialsFile := r.value? .credentialsFile
    configFile := r.value? .configFile
    settings := r.value? .settings
    verbose := r.verbose
  }

end Arguments

end ProfilePicker
