import ProfilePicker.Distinct
import ProfilePicker.Ini.Item

/-!
# The contents of a settings text

The items of a settings text, gathered into blocks: a block is a header with the entries up to
the next header. One name may head several blocks. A look-up goes to the first block of a name
and there to the first entry of the key, and so does a change.
-/
namespace ProfilePicker.Ini

/-- A key and its value. -/
abbrev Entry := Text × Text

/-- A header and the entries after it. -/
structure Block where
  /-- The name of the section. -/
  name : Text
  /-- The entries, in order. -/
  entries : List Entry
deriving Repr, DecidableEq

/-- The entries before the first header, and the blocks. -/
structure Contents where
  /-- Entries that belong to no section. -/
  preamble : List Entry
  /-- The blocks, in order. -/
  blocks : List Block
deriving Repr, DecidableEq

namespace Contents

/-- Nothing at all. -/
def empty : Contents := ⟨[], []⟩

/-- The contents with one more item in front. -/
def cons (item : Item) (c : Contents) : Contents :=
  match item with
  | .header name => ⟨[], ⟨name, c.preamble⟩ :: c.blocks⟩
  | .entry key value => ⟨(key, value) :: c.preamble, c.blocks⟩

/-- The contents that a list of items makes up. -/
def ofItems (items : List Item) : Contents := items.foldr cons empty

/-- The names of the sections, each once, in the order of their first blocks. -/
def names (c : Contents) : List Text := distinct (c.blocks.map (·.name))

/-- The first block of a section. -/
def find? (c : Contents) (name : Text) : Option Block :=
  c.blocks.find? (·.name = name)

/-- Whether there is a block of that name. -/
def has (c : Contents) (name : Text) : Bool := (c.find? name).isSome

end Contents

/-- The first value of a key. -/
def Block.get? (b : Block) (key : Text) : Option Text :=
  (b.entries.find? (·.1 = key)).map (·.2)

/-- The entries with one value for a key: where the key occurs first, or else at the end. -/
def setEntry (key value : Text) : List Entry → List Entry
  | [] => [(key, value)]
  | e :: rest =>
    if e.1 = key then (key, value) :: rest.filter (·.1 ≠ key)
    else e :: setEntry key value rest

/-- The blocks with one value for a key in the first block of a section, which is added at the
end if there is none. -/
def setInBlocks (name key value : Text) : List Block → List Block
  | [] => [⟨name, [(key, value)]⟩]
  | b :: rest =>
    if b.name = name then ⟨b.name, setEntry key value b.entries⟩ :: rest
    else b :: setInBlocks name key value rest

namespace Contents

/-- The value of a key in a section. -/
def get? (c : Contents) (name key : Text) : Option Text :=
  (c.find? name).bind (·.get? key)

/-- The contents after giving a key of a section a value. -/
def set (c : Contents) (name key value : Text) : Contents :=
  ⟨c.preamble, setInBlocks name key value c.blocks⟩

end Contents

/-! ## What a change does to look-ups and names -/

theorem find?_setEntry (key value other : Text) (entries : List Entry) :
    ((setEntry key value entries).find? (·.1 = other)).map (·.2) =
      if other = key then some value else (entries.find? (·.1 = other)).map (·.2) := by
  induction entries with
  | nil =>
    by_cases same : other = key
    · simp [setEntry, same]
    · simp [setEntry, same, Ne.symm same]
  | cons e rest ih =>
    by_cases here : e.1 = key
    · by_cases same : other = key
      · simp [setEntry, here, same]
      · have differs : ¬ key = other := fun h => same h.symm
        simp only [setEntry, here, if_true, List.find?_cons, differs, decide_false, same,
          if_false, List.find?_filter]
        congr 2
        funext x
        by_cases found : x.1 = other
        · simp [found, same]
        · simp [found]
    · by_cases same : other = key
      · subst same
        simp only [setEntry, here, if_false, List.find?_cons, decide_false] at ih ⊢
        simpa using ih
      · by_cases found : e.1 = other
        · simp [setEntry, found, same]
        · simp only [setEntry, here, if_false, List.find?_cons, found, decide_false]
          exact ih

/-- A change gives its pair the new value and leaves every other look-up alone. -/
theorem Contents.get?_set (c : Contents) (name key value otherSection otherKey : Text) :
    (c.set name key value).get? otherSection otherKey =
      if otherSection = name ∧ otherKey = key then some value
      else c.get? otherSection otherKey := by
  obtain ⟨preamble, blocks⟩ := c
  simp only [set, get?, find?, Block.get?]
  induction blocks with
  | nil =>
    by_cases same : otherSection = name
    · subst same
      by_cases sameKey : otherKey = key
      · simp [setInBlocks, sameKey]
      · simp [setInBlocks, sameKey, Ne.symm sameKey]
    · simp [setInBlocks, same, Ne.symm same]
  | cons b rest ih =>
    by_cases here : b.name = name
    · subst here
      by_cases same : otherSection = b.name
      · subst same
        simp [setInBlocks, find?_setEntry]
      · simp [setInBlocks, same, Ne.symm same]
    · by_cases found : b.name = otherSection
      · have differs : ¬ otherSection = name := fun h => here (found.trans h)
        simp [setInBlocks, found, differs]
      · simp only [setInBlocks, here, if_false, List.find?_cons, found, decide_false]
        exact ih

/-- A change adds its section at the end of the names unless it is there. -/
theorem Contents.names_set (c : Contents) (name key value : Text) :
    (c.set name key value).names =
      if c.has name then c.names else c.names ++ [name] := by
  obtain ⟨preamble, blocks⟩ := c
  have headers : (setInBlocks name key value blocks).map (·.name) =
      if name ∈ blocks.map (·.name) then blocks.map (·.name)
      else blocks.map (·.name) ++ [name] := by
    induction blocks with
    | nil => simp [setInBlocks]
    | cons b rest ih =>
      by_cases here : b.name = name
      · simp [setInBlocks, here]
      · simp only [setInBlocks, here, if_false, List.map_cons, ih, List.mem_cons,
          Ne.symm here, false_or]
        split <;> simp
  have found : (Contents.has ⟨preamble, blocks⟩ name = true) ↔
      name ∈ blocks.map (·.name) := by
    simp [has, find?, List.find?_isSome]
  simp only [names, set, headers]
  by_cases member : name ∈ blocks.map (·.name)
  · simp [found.2 member, member]
  · have absent : ¬ Contents.has ⟨preamble, blocks⟩ name = true := fun h => member (found.1 h)
    simp only [member, if_false, absent, distinct_concat]
    simp

end ProfilePicker.Ini
