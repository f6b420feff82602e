import ProfilePicker.Settings.Whole

/-!
# Values of the program's settings

The program's own settings come from several layers, and a later layer wins key by key. A value
is kept as far as the program can tell values apart: a number or a truth value is the text it
is shown as, and of a list only the file it comes from is kept, which messages name.
-/
namespace ProfilePicker.Settings

/-- A value of a settings layer. -/
inductive Value where
  /-- A value that is given as none. -/
  | absent
  /-- A text, or what is shown for a number, a truth value or a date. -/
  | scalar (shown : Text)
  /-- A list, with the file it comes from. -/
  | list (origin : Option Text)
  /-- A table. -/
  | table (entries : List (Text × Value))
deriving Repr

/-- The entries of a table, in order. -/
abbrev Entries := List (Text × Value)

/-- The entry of a key. -/
def Entries.get? (entries : Entries) (key : Text) : Option Value :=
  (entries.find? (·.1 = key)).map (·.2)

/-- The entries after changing the one of a key, which starts as absent. -/
def Entries.change (key : Text) (f : Value → Value) : Entries → Entries
  | [] => [(key, f .absent)]
  | e :: rest => if e.1 = key then (e.1, f e.2) :: rest else e :: Entries.change key f rest

namespace Value

/-- The entries of a table; anything else has none. -/
def entries : Value → Entries
  | table es => es
  | _ => []

/-- A table after changing the entry of a key. Anything else gives way to a table. -/
def change (key : Text) (f : Value → Value) (v : Value) : Value :=
  .table (Entries.change key f v.entries)

mutual

/-- A value with another one laid over it. A table goes over a table entry by entry; otherwise
the value laid over takes the place of the one below. -/
def overlay (below : Value) : Value → Value
  | .table es => overlayEntries (.table below.entries) es
  | .absent => .absent
  | .scalar shown => .scalar shown
  | .list origin => .list origin

/-- A value with the entries of a table laid over it. -/
def overlayEntries (below : Value) : List (Text × Value) → Value
  | [] => below
  | (key, v) :: rest => overlayEntries (below.change key fun old => old.overlay v) rest

end

end Value

/-- A step from a value to one inside it. -/
inductive Step where
  /-- To the entry of a key. -/
  | key (name : Text)
  /-- To an element of a list. -/
  | element
deriving Repr, DecidableEq

/-- The characters of a plain name in a written path. -/
def isNameChar (c : Char) : Bool := c.isAlphanum || c = '_' || c = '-'

/-- The rest of a written path after the number of an element and its closing bracket. -/
def elementEnd? (s : Text) : Option Text :=
  let (negative, unsigned) := match s.skipBlanks with
    | '-' :: digits => (true, digits)
    | digits => (false, digits)
  let (digits, rest) := unsigned.span Char.isDigit
  match Text.skipBlanks rest with
  | ']' :: more =>
    if !digits.isEmpty && isKept negative (numberOf 10 digits) then some more else none
  | _ => none

/-- The steps after the first name of a written path, with fuel for each of them. -/
def stepsAfter? : Nat → Text → Option (List Step)
  | _, [] => some []
  | 0, _ :: _ => none
  | fuel + 1, '.' :: rest =>
    match rest.span isNameChar with
    | ([], _) => none
    | (name, more) => (stepsAfter? fuel more).map (.key name :: ·)
  | fuel + 1, '[' :: rest =>
    match elementEnd? rest with
    | some more => (stepsAfter? fuel more).map (.element :: ·)
    | none => none
  | _ + 1, _ :: _ => none

/-- The steps that a key of a layer stands for: a written path, or else the key itself. -/
def stepsOf (key : Text) : List Step :=
  match key.span isNameChar with
  | ([], _) => [.key key]
  | (name, rest) =>
    match stepsAfter? rest.length rest with
    | some steps => .key name :: steps
    | none => [.key key]

/-- A value with another one laid over the place that some steps lead to. -/
def Value.overlayAt (below : Value) (v : Value) : List Step → Value
  | [] => below.overlay v
  | .key name :: steps => below.change name fun old => old.overlayAt v steps
  | .element :: _ =>
    match below with
    | .list origin => .list origin
    | _ => .list none

/-- A value with a layer laid over it. -/
def Value.overlayLayer (below : Value) (layer : Entries) : Value :=
  layer.foldl (fun v (key, laid) => v.overlayAt laid (stepsOf key)) below

end ProfilePicker.Settings
