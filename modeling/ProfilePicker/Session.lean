import ProfilePicker.Disk.Host
import ProfilePicker.Question

/-!
# Sessions

What a run of the program works on: the disk, the questions asked so far and the log. A flow
is a step of such a run. It may ask, have the host work on the disk and fail, and a flow that
fails keeps what it has written, asked and logged.
-/
namespace ProfilePicker

/-- How important a line of the log is. -/
inductive Level where
  /-- Of interest to whoever searches for a mistake. -/
  | debug
  /-- Of interest to the user. -/
  | info
deriving Repr, DecidableEq

/-- A line of the log. -/
structure LogLine where
  /-- Its importance. -/
  level : Level
  /-- What it says. -/
  text : Text
deriving Repr, DecidableEq

/-- The state of a run. -/
structure Session where
  /-- The disk. -/
  disk : Disk
  /-- The questions asked, first one first. -/
  asked : List Question
  /-- The log, first line first. -/
  log : List LogLine

/-- The state at the start of a run. -/
def Session.start (d : Disk) : Session := ⟨d, [], []⟩

/-- What a run meets: the user and the host. -/
structure World where
  /-- How questions are answered. -/
  prompt : Prompt
  /-- What is refused. -/
  host : Host

/-- A step of a run, which may ask questions, change the state and fail. -/
abbrev Flow (α : Type) := ReaderT World (ExceptT Fault (StateM Session)) α

namespace Flow

/-- The outcome of a flow and the state it leaves. The host refuses nothing unless another one is
given. -/
def outcome {α : Type} (flow : Flow α) (prompt : Prompt) (s : Session)
    (host : Host := .willing) : Except Fault α × Session := ((flow ⟨prompt, host⟩).run).run s

/-- Ask a question; it counts as asked whatever comes of it. -/
def ask (q : Question) : Flow q.Reply := do
  let before := (← get).asked
  modify fun s => { s with asked := before ++ [q] }
  match (← read).prompt.answer before q with
  | .ok reply => return reply
  | .error fault => throw fault

/-- Have the host work on the disk. What it leaves stays, also when it meets an obstacle. -/
def work (operation : Host → Disk → Disk × Option Refusal) : Flow Unit := do
  let (left, obstacle) := operation (← read).host (← get).disk
  modify fun s => { s with disk := left }
  match obstacle with
  | some cause => throw (.disk cause)
  | none => return ()

/-- Add a line to the log. -/
def log (level : Level) (text : Text) : Flow Unit :=
  modify fun s => { s with log := s.log ++ [⟨level, text⟩] }

/-- Add a line for whoever searches for a mistake. -/
def debug (text : Text) : Flow Unit := log .debug text

/-- Add a line for the user. -/
def info (text : Text) : Flow Unit := log .info text

/-- A flow that cannot fail: it returns how the given one ended. -/
def attempt {α : Type} (flow : Flow α) : Flow (Except Fault α) :=
  tryCatch (Except.ok <$> flow) fun fault => pure (.error fault)

end Flow

end ProfilePicker
