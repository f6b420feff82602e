import ProfilePicker.Disk.Basic

/-!
# What a host refuses

The disk says what can be done at all. The host, the system that the program runs on, may still
refuse to do it: a file belongs to somebody else, no room is left, a device fails. It gives its
reason, and what it refuses may depend on everything that the disk holds. A refusal may come when
half of the work is done: then some of the directories on a way are made, or the first bytes of a
text are in the file.
-/
namespace ProfilePicker

/-- The first bytes of a text as the content of a file; the text itself if it has no more. -/
def Content.cut (s : Text) (n : Nat) : Content :=
  if n < (Utf8.encode s).length then .ofBytes ((Utf8.encode s).take n) else .text s

/-- What a host refuses. -/
structure Host where
  /-- Why it does not let the file at a path be read. -/
  unread? : Disk → Text → Option Text
  /-- After how many places it makes no more directories on the way of a path, and why. -/
  unmade? : Disk → Text → Option (Nat × Text)
  /-- Why it does not write a text at a path, and how many of the bytes are in the file by then.
  Without a number it has not touched the file. -/
  unwritten? : Disk → Text → Text → Option (Option Nat × Text)
  /-- Why it does not set the mode of the file at a path. -/
  unset? : Disk → Text → Option Text

namespace Host

/-- The host that refuses nothing. -/
def willing : Host := ⟨fun _ _ => none, fun _ _ => none, fun _ _ _ => none, fun _ _ => none⟩

/-! What each operation leaves on the disk, and the obstacle that ended it, if one did. -/

/-- Letting the file at a path be read. -/
def permit (host : Host) (d : Disk) (path : Text) : Disk × Option Refusal :=
  (d, (host.unread? d path).map .other)

/-- Making the directories on the way of a path. What the disk has against it before the host does
comes first. -/
def makeWay (host : Host) (d : Disk) (path : Text) : Disk × Option Refusal :=
  match host.unmade? d path with
  | none => d.makeWay path
  | some (places, reason) =>
    match Disk.unusable? (Path.upToLastStep path),
        d.makeDirectories ((Path.way d.directory path).take places) with
    | none, (made, none) => (made, some (.other reason))
    | _, _ => d.makeWay path

/-- Writing a text at a path. -/
def write (host : Host) (d : Disk) (path s : Text) : Disk × Option Refusal :=
  match host.unwritten? d path s with
  | none =>
    match d.write path (.text s) with
    | .ok written => (written, none)
    | .error cause => (d, some cause)
  | some (none, reason) => (d, some (.other reason))
  | some (some bytes, reason) =>
    match d.write path (.cut s bytes) with
    | .ok written => (written, some (.other reason))
    | .error cause => (d, some cause)

/-- Setting the mode of the file at a path. -/
def setMode (host : Host) (d : Disk) (path : Text) (mode : Nat) : Disk × Option Refusal :=
  match host.unset? d path with
  | none => (d.setMode path mode, none)
  | some reason => (d, some (.other reason))

end Host

end ProfilePicker
