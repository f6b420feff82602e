import ProfilePicker.Text.Blank
import ProfilePicker.Text.Line

/-!
# Editing a settings text line by line

A value is written into a settings text by changing one line, so that comments, nested
settings, blank lines and the order of everything else stay as they are. The edit looks at
whole lines: a header line names a section, and an unindented line with an equals sign sets a
key. Indented lines are settings nested below the key before them and never match.
-/
namespace ProfilePicker.Ini

/-- The section that a line heads. -/
def headerName? (line : Text) : Option Text :=
  match line.trim with
  | '[' :: rest => (Text.splitAt? ']' rest).map fun (name, _) => name.trim
  | _ => none

/-- The key that a line sets. -/
def keyName? (line : Text) : Option Text :=
  match line with
  | [] => none
  | c :: _ =>
    if isBlank c || c = '#' || c = ';' then none
    else (Text.splitAt? '=' line.trim).map fun (key, _) => key.trim

/-- The line that gives a key a value. -/
def entryLine (key value : Text) : Text := key ++ " = " ++ value

/-- The line that heads a section. -/
def headerLine (name : Text) : Text := "[" ++ name ++ "]"

/-- Whether a line heads some section. -/
def isHeader (line : Text) : Bool := (headerName? line).isSome

/-- The lines of a block with a line after the last one that is not blank. -/
def insertAfterText (line : Text) (body : List Text) : List Text :=
  let gap := (body.reverse.takeWhile Text.isBlank).reverse
  body.take (body.length - gap.length) ++ line :: gap

/-- The lines of a block with the first line that sets the key replaced, or one added. -/
def setInBody (key value : Text) (body : List Text) : List Text :=
  match body.span (keyName? · ≠ some key) with
  | (before, _ :: after) => before ++ entryLine key value :: after
  | (_, []) => insertAfterText (entryLine key value) body

/-- The lines with a new section at the end, apart from what stands before it. -/
def appendSection (name key value : Text) (ls : List Text) : List Text :=
  let separator : List Text :=
    match ls.getLast? with
    | some line => if line.isBlank then [] else [[]]
    | none => []
  ls ++ separator ++ [headerLine name, entryLine key value]

/-- The lines after giving a key of a section a value. -/
def setInLines (name key value : Text) (ls : List Text) : List Text :=
  match ls.span (headerName? · ≠ some name) with
  | (before, head :: after) =>
    let (body, tail) := after.span (!isHeader ·)
    before ++ head :: setInBody key value body ++ tail
  | (_, []) => appendSection name key value ls

/-- The text after giving a key of a section a value. -/
def setLine (s name key value : Text) : Text :=
  Text.joinLines s.lineEnding (setInLines name key value s.lines)

end ProfilePicker.Ini
