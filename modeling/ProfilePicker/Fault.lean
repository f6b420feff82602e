import ProfilePicker.Disk.Basic
import ProfilePicker.Text.Quoted

/-!
# Faults

The ways in which the program fails, and how it words them. A cancellation is a fault too: it
ends the program like any other, but without a message of its own.
-/
namespace ProfilePicker

/-- Why an operation of the program failed. -/
inductive Fault where
  /-- Something that was asked for does not exist. -/
  | notFound (subject : Text)
  /-- Something that was to be made exists. -/
  | alreadyExists (subject : Text)
  /-- An input is refused. -/
  | invalid (reason : Text)
  /-- The user interrupted a question. -/
  | canceled
  /-- A file does not exist. -/
  | missingFile (path : Text)
  /-- A file cannot be read as settings text; the place is counted from one. -/
  | unreadable (path : Text) (line column : Nat) (reason : Text)
  /-- A question could not be asked or answered. -/
  | prompt (reason : Text)
  /-- The program's own settings are at fault. -/
  | configuration (reason : Text)
  /-- The disk refused an operation. -/
  | disk (cause : Refusal)
  /-- A value cannot be written as JSON. -/
  | json (reason : Text)
deriving Repr, DecidableEq

namespace Fault

/-- The wording of a fault. -/
def message : Fault → Text
  | notFound subject => subject ++ ": not found"
  | alreadyExists subject => subject ++ " already exist"
  | invalid reason => "invalid input: " ++ reason
  | canceled => "canceled"
  | missingFile path => path ++ " does not exist"
  | unreadable path line column reason =>
    "failed to parse " ++ path ++ ": " ++ Text.ofNat line ++ ":" ++ Text.ofNat column ++ " " ++
      reason
  | prompt reason => "prompt error: " ++ reason
  | configuration reason => "configuration error: " ++ reason
  | disk cause => "io error: " ++ cause.message
  | json reason => "json error: " ++ reason

/-- Whether the fault is an interruption by the user. -/
def isCanceled : Fault → Bool
  | canceled => true
  | _ => false

/-- How messages name the keys of a profile. -/
def keysOf (profile : Text) : Text := "credentials for profile " ++ profile.quoted

end Fault

end ProfilePicker
