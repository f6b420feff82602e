import ProfilePicker.Command
import ProfilePicker.Terminal

/-!
# The program

The outer layer. A run is a function of the disk, the environment, the arguments and the user,
so this layer shows it what the machine holds, and runs it again from the start with every
further entry of the user: each time it comes one question further. What a run has changed on
its disk is brought to the machine before the next question is asked.
-/
namespace ProfilePicker.Machine

/-! ## What the machine holds -/

/-- The text of a file of the system, empty if it cannot be read. -/
def systemText (path : String) : IO Text := do
  try
    return Utf8.decodeReplacing (← IO.FS.readBinFile path).toList
  catch _ => return []

/-- The environment variables of the process. -/
def bindings : IO (List (Text × Text)) := do
  let block := String.ofList (← systemText "/proc/self/environ")
  return (block.splitOn "\x00").filterMap fun setting => Text.splitAt? '=' setting.toList

/-- The home directory of the account that runs the process. -/
def accountHome : IO (Option Text) := do
  let status := Text.lines (← systemText "/proc/self/status")
  let accounts := Text.lines (← systemText "/etc/passwd")
  let owner := status.findSome? fun l =>
    (Text.dropStart? "Uid:\t" l).map fun ids => ids.takeWhile Char.isDigit
  return accounts.findSome? fun l =>
    match (String.ofList l).splitOn ":" with
    | _ :: _ :: id :: _ :: _ :: home :: _ =>
      if owner = some id.toList then some home.toList else none
    | _ => none

/-- What stands at a place. Nothing stands where no name of the machine leads. -/
def nodeAt (place : Place) : IO (Option Node) := do
  match ← (IO.FS.readBinFile (String.ofList (Path.ofPlace place))).toBaseIO with
  | .ok bytes => return some (.file (.ofBytes bytes.toList) readableByAll)
  | .error (.noFileOrDirectory ..) | .error (.invalidArgument ..) => return none
  | .error (.inappropriateType none ..) => return some .directory
  | .error (.inappropriateType ..) => return none
  | .error cause => throw cause

/-- The disk as far as some paths lead. -/
def diskAlong (directory : Place) (paths : List Text) : IO Disk := do
  let places := paths.flatMap fun path => Path.way directory path ++ [Path.place directory path]
  let nodes ← places.eraseDups.mapM fun place => do return (place, ← nodeAt place)
  return ⟨directory, fun place => (nodes.find? (·.1 = place)).bind (·.2)⟩

/-- The disk that a run with some arguments looks at: first its settings, and then the files
that they lead to. -/
def diskFor (directory : Place) (env : Environment) (a : Arguments) : IO Disk := do
  let settings ← diskAlong directory (Command.paths ⟨directory, fun _ => none⟩ env a)
  diskAlong directory (Command.paths settings env a)

/-! ## What a run changes -/

/-- The permissions that three bits grant. -/
def rights (bits : Nat) : IO.AccessRight := ⟨bits.testBit 2, bits.testBit 1, bits.testBit 0⟩

/-- Bring to the machine what has changed at a place. The mode of a file counts only where the
run has set it, because `nodeAt` gives every file the mode of a new one. -/
def bringPlace (before after : Disk) (place : Place) : IO Unit := do
  let path := String.ofList (Path.ofPlace place)
  if before.node place ≠ after.node place then
    match after.node place with
    | some .directory => IO.FS.createDir path
    | some (.file (.text s) mode) =>
      IO.FS.writeFile path (String.ofList s)
      if mode ≠ readableByAll then
        IO.setAccessRights path ⟨rights (mode / 64), rights (mode / 8), rights mode⟩
    | _ => return

/-- Bring to the machine what has changed along some paths. -/
def bring (before after : Disk) (paths : List Text) : IO Unit :=
  paths.forM fun path =>
    (Path.way before.directory path ++ [before.place path]).forM (bringPlace before after)

/-! ## The user -/

/-- Print a text on the terminal. -/
def tell (s : Text) : IO Unit := do
  let screen ← IO.getStderr
  screen.putStr (String.ofList s)
  screen.flush

/-- Read lines until they answer a question; nothing if the input ends before. -/
partial def entry (q : Question) (typed : Text) : IO (Option Text) := do
  let line := (← (← IO.getStdin).getLine).toList
  if line.isEmpty then return none
  let typed := typed ++ line
  if Terminal.isEnough q typed then return some typed
  entry q typed

/-- Ask the user a question. A text that is not to be shown is concealed by the terminal. -/
def ask (q : Question) : IO (Option Text) := do
  tell (Terminal.shown q)
  match q with
  | .password _ =>
    tell "\x1b[8m"
    let typed ← entry q []
    tell "\x1b[28m"
    return typed
  | _ => entry q []

/-- Print the lines of the log that are asked for. -/
def tellLog (verbose : Nat) (log : List LogLine) : IO Unit :=
  log.forM fun l =>
    match l.level with
    | .info => if 1 ≤ verbose then tell ("[INFO] " ++ l.text ++ "\n") else return
    | .debug => if 2 ≤ verbose then tell ("[DEBUG] " ++ l.text ++ "\n") else return

/-! ## A run -/

/-- A run on a disk, with the entries of the user so far and the session that they led to. -/
partial def converse (env : Environment) (arguments : List Text) (a : Arguments) (start : Disk)
    (entries : List Text) (before : Session) : IO Command.Outcome := do
  let (outcome, after) := Command.run start env arguments (Terminal.typing entries)
  tellLog a.verbose (after.log.drop before.log.length)
  bring before.disk after.disk (Command.paths start env a)
  match after.asked[entries.length]? with
  | none => return outcome
  | some q =>
    if !(← (← IO.getStdin).isTty) then return outcome
    match ← ask q with
    | none => return outcome
    | some typed => converse env arguments a start (entries ++ [typed]) after

/-- A run with arguments that lead to one. -/
def perform (arguments : List Text) (a : Arguments) : IO Command.Outcome := do
  let env : Environment := ⟨← bindings, ← accountHome⟩
  let directory := Path.steps (← IO.currentDir).toString.toList
  try
    let start ← diskFor directory env a
    converse env arguments a start [] (.start start)
  catch cause =>
    return Command.outcomeOf (.error (.disk (.other (toString cause).toList)))

end ProfilePicker.Machine

/-- The program. -/
def main (arguments : List String) : IO UInt32 := do
  let arguments := arguments.map String.toList
  let outcome ←
    match ProfilePicker.Arguments.parse arguments with
    | .error stop => pure (ProfilePicker.Command.outcomeOfStop stop)
    | .ok a => ProfilePicker.Machine.perform arguments a
  IO.print (String.ofList outcome.output)
  IO.eprint (String.ofList outcome.errors)
  return outcome.status.toUInt32
