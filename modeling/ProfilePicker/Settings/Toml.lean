import ProfilePicker.Settings.Toml.Table
import ProfilePicker.Settings.Toml.Written

/-!
# Settings written in TOML

A TOML text is a list of statements, one a line: a header opens a table or adds one to a list
of tables, and an assignment gives a key a value in the table opened last. A value that is a
list or a table between braces may go over several lines, with comments on them. The text is
refused as a whole when one statement is wrong.
-/
namespace ProfilePicker.Settings.Toml

/-- The most lists and tables that can stand one inside the other. -/
def mostNested : Nat := 80

mutual

/-- A value that may have so many levels inside it, and the rest, with fuel for each value and
separator. -/
def value? (origin : Option Text) : Nat → Nat → Text → Option (Value × Text)
  | 0, _, _ => none
  | fuel + 1, levels, s =>
    match s, levels with
    | '[' :: _, 0 => none
    | '\x7b' :: _, 0 => none
    | '[' :: rest, levels + 1 => elements? origin fuel levels rest
    | '\x7b' :: rest, levels + 1 => do
      let (nodes, more) ← fields? origin fuel levels [] rest
      return (.table (toEntries origin nodes), more)
    | '"' :: _, _ | '\'' :: _, _ => (string? s).map fun (text, rest) => (.scalar text, rest)
    | _, _ =>
      let (word, rest) := splitWord s
      (word? word).map fun shown => (.scalar shown, rest)

/-- The elements of a list, after its opening bracket or a comma, and the rest. -/
def elements? (origin : Option Text) : Nat → Nat → Text → Option (Value × Text)
  | 0, _, _ => none
  | fuel + 1, levels, s =>
    match skipLines s.length s with
    | ']' :: rest => some (.list origin, rest)
    | start => do
      let (_, rest) ← value? origin fuel levels start
      match skipLines rest.length rest with
      | ',' :: more => elements? origin fuel levels more
      | ']' :: more => some (.list origin, more)
      | _ => none

/-- The fields of a table between braces, after its opening brace or a comma, and the rest. -/
def fields? (origin : Option Text) : Nat → Nat → Nodes → Text → Option (Nodes × Text)
  | 0, _, _, _ => none
  | fuel + 1, levels, nodes, s =>
    match skipLines s.length s with
    | '\x7d' :: rest => some (nodes, rest)
    | start => do
      let (key, rest) ← key? start
      let rest ← after? '=' (skipLines rest.length rest)
      let (v, rest) ← value? origin fuel levels (skipLines rest.length rest)
      let nodes ← assign v key .opened nodes
      match skipLines rest.length rest with
      | ',' :: more => fields? origin fuel levels nodes more
      | '\x7d' :: more => some (nodes, more)
      | _ => none

end

/-- A text read so far: the tables, and the header of the one opened last. -/
structure Reading where
  /-- Everything that has been assigned. -/
  nodes : Nodes
  /-- The header that the next assignment stands under. -/
  header : List Text

/-- The statement at the start of a text, and the rest. -/
def statement? (origin : Option Text) (r : Reading) (s : Text) : Option (Reading × Text) :=
  match s.skipBlanks with
  | '[' :: '[' :: rest => do
    let (header, rest) ← key? rest
    let rest ← after? ']' rest
    let rest ← after? ']' rest
    return (⟨← addTable r.nodes header, header⟩, rest)
  | '[' :: rest => do
    let (header, rest) ← key? rest
    let rest ← after? ']' rest
    return (⟨← openTable r.nodes header, header⟩, rest)
  | start =>
    match skipComment start with
    | [] => some (r, [])
    | c :: rest =>
      if (lineEnd? (c :: rest)).isSome then some (r, c :: rest)
      else do
        let (key, rest) ← key? start
        let rest ← after? '=' rest
        let (v, rest) ← value? origin (rest.length + 1) mostNested rest.skipBlanks
        return (⟨← assignUnder r.nodes r.header key v, r.header⟩, rest)

/-- The statements of a text, with fuel for each of them. -/
def statements? (origin : Option Text) : Nat → Reading → Text → Option Nodes
  | _, r, [] => some r.nodes
  | 0, _, _ :: _ => none
  | fuel + 1, r, s => do
    let (r, rest) ← statement? origin r s
    statements? origin fuel r (← statementEnd? rest)

/-- A text without the mark of the byte order that it may start with. -/
def withoutMark : Text → Text
  | '\ufeff' :: rest => rest
  | s => s

/-- The entries of a TOML text from the given file. -/
def read? (origin : Option Text) (s : Text) : Option Entries :=
  (statements? origin (s.length + 1) ⟨[], []⟩ (withoutMark s)).map (toEntries origin)

end ProfilePicker.Settings.Toml
