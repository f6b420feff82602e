import ProfilePicker.Text.Basic

/-!
# Paths and places

A path is written by the user and shown as written. The place it leads to is a list of names,
outermost first, and depends on the directory the program runs in. Empty parts and parts that
stand for the same directory again are passed over; the part for the enclosing directory leads
one step back.
-/
namespace ProfilePicker

/-- Where something is on the disk: the names on the way, outermost first. -/
abbrev Place := List Text

namespace Path

/-- The parts of a text between slashes. -/
def pieces : Text → List Text
  | [] => [[]]
  | c :: rest =>
    if c = '/' then [] :: pieces rest
    else
      match pieces rest with
      | [] => [[c]]
      | piece :: more => (c :: piece) :: more

/-- Whether a part of a path leads nowhere else. -/
def isIdle (piece : Text) : Bool := piece = [] || piece = ['.']

/-- The steps of a path. -/
def steps (path : Text) : List Text := (pieces path).filter fun piece => !isIdle piece

/-- Whether a path starts at the root. -/
def isAbsolute (path : Text) : Bool := path.head? = some '/'

/-- Whether a path ends with the part for the same directory, which has to be there already.
Slashes behind it change nothing. -/
def endsInPlace (path : Text) : Bool :=
  ((pieces path).reverse.dropWhile (· = [])).head? = some ['.']

/-- Whether a path ends so that only a directory can stand there. -/
def demandsDirectory (path : Text) : Bool :=
  (pieces path).getLast? = some [] || endsInPlace path

/-- One step from a place. -/
def step (place : Place) (name : Text) : Place :=
  if name = ['.', '.'] then place.dropLast else place ++ [name]

/-- The places met on a walk, the first one included. -/
def walk (start : Place) : List Text → List Place
  | [] => [start]
  | name :: names => start :: walk (step start name) names

/-- Where a path starts when the program runs in the given directory. -/
def origin (directory : Place) (path : Text) : Place := if isAbsolute path then [] else directory

/-- The place a path leads to. -/
def place (directory : Place) (path : Text) : Place :=
  (steps path).foldl step (origin directory path)

/-- The places on the way to where a path leads. -/
def way (directory : Place) (path : Text) : List Place :=
  (walk (origin directory path) (steps path)).dropLast

/-- A path continued by a name: a slash comes between them unless there is one, and a name that
starts at the root stands alone. -/
def join (path name : Text) : Text :=
  if isAbsolute name || path.isEmpty then name
  else if path.getLast? = some '/' then path ++ name
  else path ++ ['/'] ++ name

/-- Pieces with slashes between them. -/
def joinPieces (pieces : List Text) : Text := List.intercalate ['/'] pieces

/-- The last name of a path and the parts before it, the nearest first. What comes behind the
name leads nowhere else; a step back is no name. -/
def lastName? (path : Text) : Option (Text × List Text) :=
  match (pieces path).reverse.dropWhile isIdle with
  | [] => none
  | name :: before => if name = ['.', '.'] then none else some (name, before)

/-- A name before its last dot, and what follows the dot, unless that dot comes first. -/
def splitName (name : Text) : Text × Option Text :=
  match name.reverse.span (· ≠ '.') with
  | (tail, _ :: c :: stem) => ((c :: stem).reverse, some tail.reverse)
  | _ => (name, none)

/-- What follows the last dot of the last name of a path. -/
def extension? (path : Text) : Option Text :=
  match lastName? path with
  | some (name, _) => (splitName name).2
  | none => none

/-- A path with an extension at its last name, in the place of the one it has. What comes behind
the name is dropped; a path without a last name stays as it is. -/
def withExtension (path extension : Text) : Text :=
  match lastName? path with
  | some (name, before) =>
    joinPieces (((splitName name).1 ++ ['.'] ++ extension) :: before).reverse
  | none => path

/-- A path before its last step, without slashes at the end. -/
def upToLastStep (path : Text) : Text :=
  joinPieces ((((pieces path).reverse.dropWhile isIdle).drop 1).dropWhile isIdle).reverse

/-- How many bytes a path or a name takes. -/
def byteCount (s : Text) : Nat := s.foldl (fun n c => n + c.utf8Size) 0

/-- The absolute path of a place. -/
def ofPlace (place : Place) : Text := ['/'] ++ joinPieces place

/-- The names on the way from a place to another one: up to what they share, then down. -/
def namesFrom : Place → List Text → List Text
  | [], names => names
  | here :: inner, [] => (here :: inner).map fun _ => ['.', '.']
  | here :: inner, name :: names =>
    if here = name then namesFrom inner names
    else ((here :: inner).map fun _ => ['.', '.']) ++ name :: names

/-- An absolute path as it is written in a directory. -/
def relativeTo (directory : Place) (path : Text) : Text :=
  joinPieces (namesFrom directory (steps path))

end Path

end ProfilePicker
