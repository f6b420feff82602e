import ProfilePicker.Disk.Path
import ProfilePicker.Text.Utf8

/-!
# The disk

The part of a disk that the program can tell apart: at each place nothing, a directory, or a
file with a content and a mode. A file is read as a whole and written as a whole. A write
needs the directories on the way to it; making them is an operation of its own, and leaves
behind what it has made when it meets an obstacle. These are the obstacles that can be seen on the
disk. A mode is none of them: whom it stops depends on who runs the program, as does whether there
is room left, and so this is up to the host.
-/
namespace ProfilePicker

/-- What a file holds. -/
inductive Content where
  /-- A text. -/
  | text (s : Text)
  /-- Bytes that are not the bytes of a text. -/
  | bytes (bs : List UInt8)
deriving Repr, DecidableEq

/-- The content that some bytes make up. -/
def Content.ofBytes (bs : List UInt8) : Content :=
  match Utf8.decode? bs with
  | some s => .text s
  | none => .bytes bs

/-- The characters of a content, whatever it is. -/
def Content.characters : Content → Text
  | text s => s
  | bytes bs => Utf8.decodeReplacing bs

/-- What stands somewhere. -/
inductive Node where
  /-- A directory. -/
  | directory
  /-- A file, with the permissions of its owner, its group and all others. -/
  | file (content : Content) (mode : Nat)
deriving Repr, DecidableEq

/-- Reading and writing for the owner and nobody else. -/
def ownerOnly : Nat := 0o600

/-- Writing for the owner, reading for everybody: the mode of a new file. -/
def readableByAll : Nat := 0o644

/-- Why the disk refuses an operation. -/
inductive Refusal where
  /-- Nothing is there. -/
  | missing
  /-- A file stands where the way goes on. -/
  | notDirectory
  /-- A directory stands where a file is wanted. -/
  | isDirectory
  /-- A file stands where a directory is to be made. -/
  | fileExists
  /-- The file holds no text. -/
  | notText
  /-- A path has the character in it that ends names on the disk. -/
  | brokenName
  /-- A path, or a name on the way, is longer than the disk allows. -/
  | longName
  /-- Any other reason, in the words of the host. The disk alone never gives one. -/
  | other (reason : Text)
deriving Repr, DecidableEq

/-- The wording of a refusal. -/
def Refusal.message : Refusal → Text
  | missing => "No such file or directory (os error 2)"
  | notDirectory => "Not a directory (os error 20)"
  | isDirectory => "Is a directory (os error 21)"
  | fileExists => "File exists (os error 17)"
  | notText => "stream did not contain valid UTF-8"
  | brokenName => "file name contained an unexpected NUL byte"
  | longName => "File name too long (os error 36)"
  | other reason => reason

/-- The places of a disk and the directory the program runs in. -/
structure Disk where
  /-- The directory that relative paths start from. -/
  directory : Place
  /-- What stands at each place. -/
  node : Place → Option Node

namespace Disk

/-- The disk with something new at one place. -/
def put (d : Disk) (place : Place) (n : Node) : Disk :=
  { d with node := fun p => if p = place then some n else d.node p }

/-- The place a path leads to. -/
def place (d : Disk) (path : Text) : Place := Path.place d.directory path

/-- The most bytes that a name can take. -/
def mostNameBytes : Nat := 255

/-- The most bytes that a path can take. -/
def mostPathBytes : Nat := 4095

/-- Whether nothing can stand at a place, because its name is too long. -/
def isOverlong (place : Place) : Bool :=
  mostNameBytes < Path.byteCount (place.getLast?.getD [])

/-- Why nothing stands at a place where nothing stands. -/
def absence (place : Place) : Refusal := if isOverlong place then .longName else .missing

/-- Why a path cannot be followed at all, wherever it leads. -/
def unusable? (path : Text) : Option Refusal :=
  if path.contains '\x00' then some .brokenName
  else if mostPathBytes < Path.byteCount path then some .longName
  else none

/-- The first obstacle on the way along some places that should all be directories. -/
def obstacle? (d : Disk) : List Place → Option Refusal
  | [] => none
  | p :: rest =>
    match d.node p with
    | none => some (absence p)
    | some (.file _ _) => some .notDirectory
    | some .directory => obstacle? d rest

/-- What hinders the access along a path, apart from what stands at its end. -/
def hindrance? (d : Disk) (path : Text) : Option Refusal :=
  if path.isEmpty then some .missing
  else (unusable? path).or (d.obstacle? (Path.way d.directory path))

/-- What stands where a path leads, if the way is clear and the path allows it to be there. -/
def look? (d : Disk) (path : Text) : Option Node :=
  match d.hindrance? path, d.node (d.place path) with
  | none, some .directory => some .directory
  | none, some (.file c mode) =>
    if Path.demandsDirectory path then none else some (.file c mode)
  | _, _ => none

/-- The content of the file at a path. -/
def content (d : Disk) (path : Text) : Except Refusal Content :=
  match d.hindrance? path with
  | some r => .error r
  | none =>
    match d.node (d.place path) with
    | none => .error (absence (d.place path))
    | some .directory => .error .isDirectory
    | some (.file c _) => if Path.demandsDirectory path then .error .notDirectory else .ok c

/-- The text of the file at a path. -/
def read (d : Disk) (path : Text) : Except Refusal Text :=
  match d.content path with
  | .error r => .error r
  | .ok (.text s) => .ok s
  | .ok (.bytes _) => .error .notText

/-- Why nothing can be written where only a directory can stand. -/
def refusalOfDirectory (d : Disk) (path : Text) : Refusal :=
  match Path.endsInPlace path, d.node (d.place path) with
  | true, none => absence (d.place path)
  | true, some (.file _ _) => .notDirectory
  | _, _ => .isDirectory

/-- The disk after writing a content at a path. A file keeps its mode, and no mode stops it from
being written. A host may still refuse, or break off. -/
def write (d : Disk) (path : Text) (c : Content) : Except Refusal Disk :=
  match d.hindrance? path with
  | some r => .error r
  | none =>
    if Path.demandsDirectory path then .error (d.refusalOfDirectory path)
    else
      match d.node (d.place path) with
      | some .directory => .error .isDirectory
      | some (.file _ mode) => .ok (d.put (d.place path) (.file c mode))
      | none =>
        if isOverlong (d.place path) then .error .longName
        else .ok (d.put (d.place path) (.file c readableByAll))

/-- The disk after making the missing directories among some places, each inside the one before
it, and the obstacle that ended the work, if one did. -/
def makeDirectories (d : Disk) : List Place → Disk × Option Refusal
  | [] => (d, none)
  | p :: rest =>
    match d.node p with
    | some .directory => makeDirectories d rest
    | some (.file _ _) => (d, some (if rest.isEmpty then .fileExists else .notDirectory))
    | none =>
      if isOverlong p then (d, some .longName) else makeDirectories (d.put p .directory) rest

/-- The disk after making the directories on the way of a path. -/
def makeWay (d : Disk) (path : Text) : Disk × Option Refusal :=
  match unusable? (Path.upToLastStep path) with
  | some cause => (d, some cause)
  | none => d.makeDirectories (Path.way d.directory path)

/-- The disk after setting the mode of the file at a path. Nothing on the disk is against it; a host
may refuse. -/
def setMode (d : Disk) (path : Text) (mode : Nat) : Disk :=
  match d.look? path with
  | some (.file c _) => d.put (d.place path) (.file c mode)
  | _ => d

/-- The mode of the file at a path. -/
def mode? (d : Disk) (path : Text) : Option Nat :=
  match d.look? path with
  | some (.file _ mode) => some mode
  | _ => none

end Disk

end ProfilePicker
