import Mathlib.Data.List.Basic
import ProfilePicker.Ini.Document

/-!
# Looking things up among items

What the contents of a settings text answer, read off the list of its items. A look-up goes to
the first header of its name and from there to the first entry of its key, and the next header
ends it. An item in the middle of the list therefore matters to one look-up at most: to the one
whose section the items before it end in.
-/
namespace ProfilePicker.Ini

/-- The name of a header. -/
def Item.header? : Item → Option Text
  | .header name => some name
  | .entry _ _ => none

/-- The names of the headers, in order and as often as they occur. -/
def headersIn (items : List Item) : List Text := items.filterMap Item.header?

/-- The first value of a key before the next header. -/
def entryIn (key : Text) : List Item → Option Text
  | [] => none
  | .header _ :: _ => none
  | .entry k v :: rest => if k = key then some v else entryIn key rest

/-- The first value of a key after the first header of a name. -/
def valueIn (name key : Text) : List Item → Option Text
  | [] => none
  | .header n :: rest => if n = name then entryIn key rest else valueIn name key rest
  | .entry _ _ :: rest => valueIn name key rest

/-- Whether some items end in the first section of a name. -/
def endsIn (name : Text) : List Item → Bool
  | [] => false
  | .header n :: rest => if n = name then (headersIn rest).isEmpty else endsIn name rest
  | .entry _ _ :: rest => endsIn name rest

/-! ## What the contents answer -/

/-- A text whose items can be read makes up a document. -/
theorem Document.parse_of_items {s : Text} {found : List Item} (read : Ini.items s = .ok found) :
    Document.parse s = .ok ⟨s, .ofItems found⟩ := by
  rw [parse, read]
  rfl

/-- The document of a text holds the text and the contents that its items make up. -/
theorem Document.items_of_parse {s : Text} {d : Document} (read : Document.parse s = .ok d) :
    ∃ found, Ini.items s = .ok found ∧ d = ⟨s, .ofItems found⟩ := by
  rw [parse] at read
  cases found : Ini.items s with
  | error problem =>
    rw [found] at read
    cases read
  | ok all =>
    rw [found] at read
    cases read
    exact ⟨all, rfl, rfl⟩

/-- The first value of a key before the first header. -/
theorem entryIn_eq (key : Text) (items : List Item) :
    ((Contents.ofItems items).preamble.find? (·.1 = key)).map (·.2) = entryIn key items := by
  induction items with
  | nil => rfl
  | cons item items ih =>
    cases item with
    | header name => rfl
    | entry k v =>
      by_cases here : k = key
      · simp [Contents.ofItems, Contents.cons, entryIn, here]
      · simpa [Contents.ofItems, Contents.cons, entryIn, here] using ih

/-- The contents of some items answer what the items say. -/
theorem get?_ofItems (name key : Text) (items : List Item) :
    (Contents.ofItems items).get? name key = valueIn name key items := by
  induction items with
  | nil => rfl
  | cons item items ih =>
    cases item with
    | header n =>
      by_cases here : n = name
      · have first := entryIn_eq key items
        simp only [Contents.ofItems] at first
        simp [Contents.ofItems, Contents.cons, Contents.get?, Contents.find?, Block.get?, valueIn,
          here, first]
      · simp only [Contents.get?, Contents.find?, Contents.ofItems] at ih
        simp [Contents.ofItems, Contents.cons, Contents.get?, Contents.find?, valueIn, here, ih]
    | entry k v =>
      simpa [Contents.ofItems, Contents.cons, Contents.get?, Contents.find?, valueIn] using ih

/-- The names of the blocks are the names of the headers. -/
theorem blockNames_ofItems (items : List Item) :
    (Contents.ofItems items).blocks.map (·.name) = headersIn items := by
  induction items with
  | nil => rfl
  | cons item items ih =>
    simp only [Contents.ofItems] at ih
    cases item with
    | header n =>
      simp [Contents.ofItems, Contents.cons, headersIn, Item.header?, ih]
    | entry k v => exact ih

/-- The sections are the names of the headers, each once. -/
theorem names_ofItems (items : List Item) :
    (Contents.ofItems items).names = distinct (headersIn items) := by
  rw [Contents.names, blockNames_ofItems]

/-- There is a section exactly when there is a block of its name. -/
theorem Contents.has_iff (c : Contents) (name : Text) : c.has name = true ↔ name ∈ c.names := by
  rw [Contents.has, Contents.names, mem_distinct, Contents.find?, List.find?_isSome]
  simp

/-! ## Documents after an edit -/

/-- The names after an edit. -/
theorem Document.sections_set (d : Document) (name key value : Text) :
    (d.set name key value).sections =
      if name ∈ d.sections then d.sections else d.sections ++ [name] := by
  have names := Contents.names_set d.contents name key value
  have found := Contents.has_iff d.contents name
  rw [sections, sections, set, names]
  by_cases member : name ∈ d.contents.names
  · rw [if_pos (found.2 member), if_pos member]
  · rw [if_neg (mt found.1 member), if_neg member]

/-- The look-ups after an edit. -/
theorem Document.get?_set (d : Document) (name key value otherName otherKey : Text) :
    (d.set name key value).get? otherName otherKey =
      if otherName = name ∧ otherKey = key then some value else d.get? otherName otherKey :=
  Contents.get?_set d.contents name key value otherName otherKey

/-! ## Items after other items -/

@[simp]
theorem headersIn_append (items more : List Item) :
    headersIn (items ++ more) = headersIn items ++ headersIn more := by
  simp [headersIn]

@[simp]
theorem headersIn_nil : headersIn [] = [] := rfl

@[simp]
theorem headersIn_header (name : Text) (items : List Item) :
    headersIn (.header name :: items) = name :: headersIn items := rfl

@[simp]
theorem headersIn_entry (key value : Text) (items : List Item) :
    headersIn (.entry key value :: items) = headersIn items := rfl

/-- Items end in a section only if it has a header among them. -/
theorem mem_headersIn_of_endsIn {name : Text} {items : List Item}
    (ends : endsIn name items = true) : name ∈ headersIn items := by
  induction items with
  | nil => simp [endsIn] at ends
  | cons item items ih =>
    cases item with
    | header n =>
      by_cases here : n = name
      · simp [here]
      · rw [endsIn, if_neg here] at ends
        exact List.mem_cons_of_mem n (ih ends)
    | entry k v => exact ih ends

/-- Items end in the section of their last header and in no other. -/
theorem getLast?_of_endsIn {name : Text} {items : List Item} (ends : endsIn name items = true) :
    (headersIn items).getLast? = some name := by
  induction items with
  | nil => simp [endsIn] at ends
  | cons item items ih =>
    cases item with
    | header n =>
      by_cases here : n = name
      · rw [endsIn, if_pos here, List.isEmpty_iff] at ends
        simp [ends, here]
      · rw [endsIn, if_neg here] at ends
        rw [headersIn_header, List.getLast?_cons, ih ends]
        rfl
    | entry k v => exact ih ends

/-- The first value of a key among items after other items. -/
theorem entryIn_append (key : Text) (items more : List Item) :
    entryIn key (items ++ more) =
      if headersIn items = [] then (entryIn key items).or (entryIn key more)
      else entryIn key items := by
  induction items with
  | nil => simp [entryIn, headersIn]
  | cons item items ih =>
    cases item with
    | header n => simp [entryIn]
    | entry k v =>
      by_cases here : k = key
      · simp [entryIn, here]
      · simpa [entryIn, here] using ih

/-- A look-up among items after other items goes on where the first ones leave it. -/
theorem valueIn_append (name key : Text) (items more : List Item) :
    valueIn name key (items ++ more) =
      if name ∈ headersIn items then
        if endsIn name items then (valueIn name key items).or (entryIn key more)
        else valueIn name key items
      else valueIn name key more := by
  induction items with
  | nil => simp [headersIn]
  | cons item items ih =>
    cases item with
    | header n =>
      by_cases here : n = name
      · simp [valueIn, endsIn, here, entryIn_append]
      · simp [valueIn, endsIn, here, ih, Ne.symm here]
    | entry k v => exact ih

/-- An entry among other items matters to the look-ups of its key in the section that the items
before it end in, and there only while the key has no value. -/
theorem valueIn_insert (name key : Text) (before after : List Item) (k v : Text) :
    valueIn name key (before ++ .entry k v :: after) =
      if endsIn name before ∧ k = key then (valueIn name key before).or (some v)
      else valueIn name key (before ++ after) := by
  rw [valueIn_append, valueIn_append]
  by_cases ends : endsIn name before = true
  · have member := mem_headersIn_of_endsIn ends
    by_cases same : k = key
    · simp [ends, member, same, entryIn]
    · simp [ends, member, same, entryIn]
  · by_cases member : name ∈ headersIn before
    · simp [ends, member]
    · simp [ends, member, valueIn]

/-- A new section at the end answers for itself and changes no other look-up. -/
theorem valueIn_newSection {new : Text} {items : List Item} (absent : new ∉ headersIn items)
    (name key k v : Text) :
    valueIn name key (items ++ [.header new, .entry k v]) =
      if name = new ∧ key = k then some v else valueIn name key items := by
  have nothing : ∀ n, n ∉ headersIn items → valueIn n key items = none := by
    intro n missing
    have := valueIn_append n key items []
    rw [List.append_nil, if_neg missing] at this
    exact this
  rw [valueIn_append]
  by_cases here : name = new
  · subst here
    by_cases same : key = k
    · simp [absent, same, valueIn, entryIn]
    · simp [absent, same, valueIn, entryIn, nothing name absent, Ne.symm same]
  · by_cases member : name ∈ headersIn items
    · by_cases ends : endsIn name items = true <;> simp [member, ends, here, entryIn]
    · simp [member, here, valueIn, nothing name member, Ne.symm here]

end ProfilePicker.Ini
