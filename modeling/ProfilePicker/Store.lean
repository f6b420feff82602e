import ProfilePicker.Ini.Document
import ProfilePicker.Session

/-!
# Stored documents

A store is one settings file. It is always read as a whole and written as a whole, and the
directories on the way to it are made before it is written. A file that is missing is told
apart from one that cannot be read, so that callers may take it for an empty one.
-/
namespace ProfilePicker

/-- One settings file. -/
structure Store where
  /-- Where it is. -/
  path : Text
  /-- Whether only its owner may read it once it is written. -/
  isPrivate : Bool
deriving Repr, DecidableEq

namespace Store

/-- How messages count the sections of a document. -/
def sectionCount (d : Ini.Document) : Text :=
  " (" ++ Text.ofNat d.sections.length ++ " sections)"

/-- The document of a text that was found in the store. -/
def parse (store : Store) (s : Text) : Except Fault Ini.Document :=
  match Ini.Document.parse s with
  | .ok d => .ok d
  | .error p => .error (.unreadable store.path p.line p.column p.cause.message)

/-- What the disk holds in the store. -/
def find (store : Store) (disk : Disk) : Except Fault Ini.Document :=
  match disk.read store.path with
  | .error .missing => .error (.missingFile store.path)
  | .error cause => .error (.disk cause)
  | .ok s => store.parse s

/-- Read the document. -/
def load (store : Store) : Flow Ini.Document := do
  Flow.work fun host disk => host.permit disk store.path
  match store.find (← get).disk with
  | .error fault => throw fault
  | .ok d =>
    Flow.debug ("loaded " ++ store.path ++ sectionCount d)
    return d

/-- Read the document, or take the empty one if the file does not exist. -/
def loadOrEmpty (store : Store) : Flow Ini.Document := do
  match ← store.load.attempt with
  | .ok d => return d
  | .error (.missingFile path) =>
    Flow.debug (path ++ " does not exist, starting empty")
    return .empty
  | .error fault => throw fault

/-- Keeping the file from others, if it has to be. -/
def restrict (store : Store) (host : Host) (disk : Disk) : Disk × Option Refusal :=
  if store.isPrivate then host.setMode disk store.path ownerOnly else (disk, none)

/-- Write a text into the file, making the directories on the way to it. The file is kept from
others only once the text is in it. -/
def write (store : Store) (s : Text) : Flow Unit := do
  Flow.work fun host disk => host.makeWay disk store.path
  Flow.work fun host disk => host.write disk store.path s
  Flow.work store.restrict

/-- Make the file, or empty it. -/
def createEmpty (store : Store) : Flow Unit := do
  store.write []
  Flow.debug ("created empty " ++ store.path)

/-- Write a document into the file. -/
def save (store : Store) (d : Ini.Document) : Flow Unit := do
  store.write d.text
  Flow.debug ("saved " ++ store.path ++ sectionCount d)

end Store

end ProfilePicker
