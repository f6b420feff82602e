import ProfilePicker.Settings.Value

/-!
# Tables of TOML

How the tables of a TOML text grow. A table may be opened by a header once, may be needed by a
header further down before it is opened, or may grow by dotted keys where it is first named. A
table of a list of tables is always the last one of its list.
-/
namespace ProfilePicker.Settings.Toml

/-- How a table came about. -/
inductive Opening where
  /-- A header further down needed it. -/
  | needed
  /-- A header opened it. -/
  | opened
  /-- A dotted key named it. -/
  | dotted
deriving Repr, DecidableEq

/-- What stands in a table. -/
inductive Node where
  /-- A value, which is complete. -/
  | value (v : Value)
  /-- A table that may still grow. -/
  | table (opening : Opening) (entries : List (Text × Node))
  /-- A list of tables, of which the last one may still grow. -/
  | tables (last : List (Text × Node))

/-- The entries of a table, in order. -/
abbrev Nodes := List (Text × Node)

/-- What stands under a key. -/
def Nodes.get? (nodes : Nodes) (key : Text) : Option Node :=
  (nodes.find? (·.1 = key)).map (·.2)

/-- The entries with something new under a key. -/
def Nodes.put (key : Text) (node : Node) : Nodes → Nodes
  | [] => [(key, node)]
  | e :: rest => if e.1 = key then (key, node) :: rest else e :: Nodes.put key node rest

/-- The entries after growing the table that a path leads to. Tables that are missing on the
way come about as given. A dotted key does not lead into a table that a header opened. -/
def grow (missing : Opening) (f : Opening → Nodes → Option Nodes) (opening : Opening)
    (nodes : Nodes) : List Text → Option Nodes
  | [] => f opening nodes
  | key :: path =>
    match nodes.get? key with
    | none => do
      let inner ← grow missing f missing [] path
      return nodes.put key (.table missing inner)
    | some (.value _) => none
    | some (.tables last) => do
      let inner ← grow missing f .opened last path
      return nodes.put key (.tables inner)
    | some (.table own inner) =>
      if missing = .dotted && own = .opened then none
      else do
        let inner ← grow missing f own inner path
        return nodes.put key (.table own inner)

/-- The last name of a path and the names before it. -/
def splitLast : List Text → Option (List Text × Text)
  | [] => none
  | [key] => some ([], key)
  | key :: rest => (splitLast rest).map fun (path, last) => (key :: path, last)

/-- The entries after giving a dotted key a value, which it may have only once. -/
def assign (v : Value) (key : List Text) (opening : Opening) (nodes : Nodes) : Option Nodes := do
  let (path, last) ← splitLast key
  let place (own : Opening) (inner : Nodes) : Option Nodes :=
    let grownByDots : Bool := own = .dotted
    if grownByDots = path.isEmpty then none
    else
      match inner.get? last with
      | some _ => none
      | none => some (inner ++ [(last, .value v)])
  grow .dotted place opening nodes path

/-- The entries after a header has opened a table. -/
def openTable (nodes : Nodes) (header : List Text) : Option Nodes := do
  let (path, last) ← splitLast header
  let place (_ : Opening) (inner : Nodes) : Option Nodes :=
    match inner.get? last with
    | none => some (inner.put last (.table .opened []))
    | some (.table .needed own) => some (inner.put last (.table .opened own))
    | some _ => none
  grow .needed place .opened nodes path

/-- The entries after a header has added a table to a list of tables. -/
def addTable (nodes : Nodes) (header : List Text) : Option Nodes := do
  let (path, last) ← splitLast header
  let place (_ : Opening) (inner : Nodes) : Option Nodes :=
    match inner.get? last with
    | none => some (inner.put last (.tables []))
    | some (.tables _) => some (inner.put last (.tables []))
    | some _ => none
  grow .needed place .opened nodes path

/-- The entries after giving a key a value in the table that a header opened. -/
def assignUnder (nodes : Nodes) (header key : List Text) (v : Value) : Option Nodes :=
  grow .needed (assign v key) .opened nodes header

mutual

/-- The value that stands in a table in the end. -/
def Node.toValue (origin : Option Text) : Node → Value
  | .value v => v
  | .table _ entries => .table (toEntries origin entries)
  | .tables _ => .list origin

/-- The entries that stand in a table in the end. -/
def toEntries (origin : Option Text) : List (Text × Node) → List (Text × Value)
  | [] => []
  | (key, node) :: rest => (key, node.toValue origin) :: toEntries origin rest

end

end ProfilePicker.Settings.Toml
