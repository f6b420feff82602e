import ProfilePicker.Proofs.LineItems
import ProfilePicker.Proofs.Lookup
import ProfilePicker.Proofs.Seam

/-!
# What an edit of closed lines changes

Among closed lines an edit adds one entry or replaces one, at a place where the first block of
its section is open. So no look-up of another pair changes, and no header disappears. The
look-up of its own pair finds the new value, unless an indented line of the block sets the same
key: the reader takes that line for a setting, and the edit does not.
-/
namespace ProfilePicker.Ini

open Text (OneLine IsEnding shortEnding)

/-- The lines of the first block of a section. -/
def firstBlock (name : Text) : List Text → List Text
  | [] => []
  | line :: rest =>
    if headerName? line = some name then rest.takeWhile (!isHeader ·) else firstBlock name rest

/-- No indented line sets the key. -/
def NoIndented (key : Text) (ls : List Text) : Prop :=
  ∀ line ∈ ls, isIndented line = true → (settingOf? line).map Prod.fst ≠ some key

instance (key : Text) (ls : List Text) : Decidable (NoIndented key ls) :=
  inferInstanceAs (Decidable (∀ line ∈ ls, isIndented line = true →
    (settingOf? line).map Prod.fst ≠ some key))

/-! ## Items and headers of lines -/

/-- The headers among the items are the header lines. -/
theorem headersIn_itemsOf (ls : List Text) : headersIn (itemsOf ls) = ls.filterMap headerName? := by
  induction ls with
  | nil => rfl
  | cons line ls ih =>
    rw [itemsOf_cons, headersIn_append, ih]
    cases heads : headerName? line with
    | some name => simp [itemOf?, heads, headersIn, Item.header?]
    | none =>
      cases sets : settingOf? line with
      | some e => simp [itemOf?, heads, sets, headersIn, Item.header?]
      | none => simp [itemOf?, heads, sets, headersIn]

/-- A name is no header of lines that do not head it. -/
theorem not_mem_headersIn {name : Text} {ls : List Text}
    (absent : ∀ line ∈ ls, headerName? line ≠ some name) : name ∉ headersIn (itemsOf ls) := by
  rw [headersIn_itemsOf, List.mem_filterMap]
  rintro ⟨line, member, heads⟩
  exact absent line member heads

/-- Lines without headers have no header among their items. -/
theorem headersIn_eq_nil {ls : List Text} (inside : ∀ line ∈ ls, isHeader line = false) :
    headersIn (itemsOf ls) = [] := by
  rw [headersIn_itemsOf, List.filterMap_eq_nil_iff]
  intro line member
  simpa [isHeader] using inside line member

/-- The item of a header line. -/
theorem itemOf?_of_headerName? {line name : Text} (heads : headerName? line = some name) :
    itemOf? line = some (.header name) := by
  rw [itemOf?, heads]

/-- Lines that set other keys give the key no value. -/
theorem entryIn_eq_none {key : Text} {ls : List Text}
    (others : ∀ line ∈ ls, (settingOf? line).map Prod.fst ≠ some key) :
    entryIn key (itemsOf ls) = none := by
  induction ls with
  | nil => rfl
  | cons line ls ih =>
    have later := ih fun l member => others l (List.mem_cons_of_mem line member)
    have here := others line List.mem_cons_self
    rw [itemsOf_cons, itemOf?]
    cases heads : headerName? line with
    | some name => rfl
    | none =>
      cases sets : settingOf? line with
      | none => simpa using later
      | some e =>
        have differs : e.1 ≠ key := by simpa [sets] using here
        simp [entryIn, differs, later]

/-- Items that end in a section: a header of its name, the first one, and no header after it. -/
theorem endsIn_append_header {name : Text} {front body : List Item}
    (absent : name ∉ headersIn front) (open_ : headersIn body = []) :
    endsIn name (front ++ .header name :: body) = true := by
  induction front with
  | nil => simp [endsIn, open_]
  | cons item front ih =>
    cases item with
    | header n =>
      rw [headersIn_header, List.mem_cons, not_or] at absent
      rw [List.cons_append, endsIn, if_neg (Ne.symm absent.1)]
      exact ih absent.2
    | entry k v => exact ih absent

/-- The value of a key in the section that some items end in. -/
theorem valueIn_append_header {name : Text} {front : List Item}
    (absent : name ∉ headersIn front) (key : Text) (body : List Item) :
    valueIn name key (front ++ .header name :: body) = entryIn key body := by
  rw [valueIn_append, if_neg absent, valueIn, if_pos rfl]

/-! ## The entry that an edit writes -/

section Edit

variable {ending name key : Text} (plainKey : PlainKey key)

include plainKey in
/-- The item of the line that an edit writes. -/
theorem itemOf?_entryLine (value : Text) :
    itemOf? (entryLine key value) = some (.entry key value.trim) := by
  have blank : Text.isBlank [' '] = true := by decide
  have trimmed : Text.trim (' ' :: value) = value.trim :=
    Text.trim_append_of_isBlank_left blank value
  rw [entryLine_eq, itemOf?_settingLine indents_nil plainKey (by decide), trimmed]

include plainKey in
/-- The line that an edit writes is one line when its value is. -/
theorem oneLine_entryLine {value : Text} (oneLine : OneLine value) :
    OneLine (entryLine key value) := by
  rw [entryLine, Text.oneLine_append, Text.oneLine_append]
  exact ⟨⟨plainKey.oneLine, by decide⟩, oneLine⟩

include plainKey in
/-- The line that an edit writes is closed when its value is. -/
theorem closedLine_entryLine {value : Text} (oneLine : OneLine value)
    (closed : ending = shortEnding → leavesOpen value = false) :
    ClosedLine ending (entryLine key value) := by
  rw [entryLine_eq]
  refine .setting indents_nil plainKey (by decide) ?_ fun short => ?_
  · intro c member
    rcases List.mem_cons.1 member with rfl | member
    · decide
    · exact oneLine c member
  · by_cases nothing : value = []
    · subst nothing
      rfl
    · have free : '\\' ∉ [' '] := by decide
      rw [← closed short]
      exact leavesOpen_append free nothing

include plainKey in
/-- The line that an edit writes is plain when its value is. -/
theorem plainLine_entryLine {value : Text} (plain : PlainValue value) :
    PlainLine (entryLine key value) := by
  rw [entryLine_eq]
  refine .setting indents_nil plainKey (by decide) ?_ ?_
  · intro c member
    rcases List.mem_cons.1 member with rfl | member
    · decide
    · exact plain.oneLine c member
  · intro last
    cases shape : value.getLast? with
    | none => simp [List.getLast?_cons, shape] at last
    | some c =>
      have : c = '\\' := by simpa [List.getLast?_cons, shape] using last
      exact plain.noBackslash (shape.trans (congrArg some this))

include plainKey in
/-- The line that an edit writes is not indented. -/
theorem isIndented_entryLine (value : Text) : isIndented (entryLine key value) = false := by
  obtain ⟨c, rest, rfl, visible, -⟩ := plainKey.exists_cons
  simp [entryLine, isIndented, visible]

include plainKey in
/-- The line that an edit writes heads no section. -/
theorem headerName?_entryLine (value : Text) : headerName? (entryLine key value) = none := by
  rw [entryLine_eq, headerName?_settingLine indents_nil plainKey]

include plainKey in
/-- So it is no header. -/
theorem isHeader_entryLine (value : Text) : isHeader (entryLine key value) = false := by
  rw [isHeader, headerName?_entryLine plainKey]
  rfl

/-! ## Settings that the edit does not see -/

/-- A closed setting that is not indented sets the key that its item has. -/
theorem ClosedLine.keyName?_of_setting {line k : Text} (closed : ClosedLine ending line)
    (inside : isHeader line = false) (outdented : isIndented line = false)
    (sets : (settingOf? line).map Prod.fst = some k) : keyName? line = some k := by
  cases closed with
  | blank indents => simp [settingOf?_of_indents indents] at sets
  | comment marks oneLine => simp [settingOf?, marks] at sets
  | header plain => simp [isHeader, headerName?_headerLine plain] at inside
  | @setting indent key pad value indents plain pads oneLine closed =>
    cases indent with
    | nil =>
      rw [settingOf?_settingLine indents_nil plain pads] at sets
      rw [keyName?_settingLine plain pads]
      simpa using sets
    | cons c indent =>
      have blank := isBlank_of_isIndent (indents c List.mem_cons_self)
      simp [settingLine, isIndented, blank] at outdented

/-- The lines of a first block, after its header. -/
theorem firstBlock_append {front : List Text} (first : ∀ line ∈ front, headerName? line ≠ some name)
    {head : Text} (heads : headerName? head = some name) (rest : List Text) :
    firstBlock name (front ++ head :: rest) = rest.takeWhile (!isHeader ·) := by
  induction front with
  | nil => simp [firstBlock, heads]
  | cons line front ih =>
    rw [List.cons_append, firstBlock, if_neg (first line List.mem_cons_self)]
    exact ih fun l member => first l (List.mem_cons_of_mem line member)

/-- The lines of a block are among all lines. -/
theorem mem_of_mem_firstBlock {name : Text} {ls : List Text} {l : Text}
    (member : l ∈ firstBlock name ls) : l ∈ ls := by
  induction ls with
  | nil => exact member
  | cons line ls ih =>
    rw [firstBlock] at member
    split at member
    · exact List.mem_cons_of_mem line (List.takeWhile_subset _ member)
    · exact List.mem_cons_of_mem line (ih member)

/-- None of them is a header. -/
theorem isHeader_of_mem_firstBlock {name : Text} {ls : List Text} {l : Text}
    (member : l ∈ firstBlock name ls) : isHeader l = false := by
  induction ls with
  | nil => cases member
  | cons line ls ih =>
    rw [firstBlock] at member
    split at member
    · simpa using List.mem_takeWhile_imp member
    · exact ih member

/-- Lines without headers at the start of a block belong to it. -/
theorem mem_takeWhile_append {body rest : List Text} (inside : ∀ line ∈ body, isHeader line = false)
    {line : Text} (member : line ∈ body) : line ∈ (body ++ rest).takeWhile (!isHeader ·) := by
  have all : ∀ l ∈ body, (!isHeader l) = true := fun l m => by simp [inside l m]
  rw [List.takeWhile_append_of_pos all]
  exact List.mem_append_left _ member

/-! ## The two sides of the seam -/

/-- The separator says nothing. -/
theorem itemsOf_separator (ls : List Text) : itemsOf (separator ls) = [] := by
  rw [itemsOf, List.filterMap_eq_nil_iff]
  intro line member
  rw [eq_nil_of_mem_separator member]
  rfl

section Sides

variable {ls before after : List Text} (parts : Seam name key ls before after)
  (plainName : PlainName name)

include parts plainName in
/-- The lines before the seam end in the first block of the section. -/
theorem Seam.endsIn : endsIn name (itemsOf before) = true := by
  cases parts with
  | @replaced front body back head old first heads others inside sets =>
    rw [itemsOf_append, itemsOf_cons, itemOf?_of_headerName? heads]
    exact endsIn_append_header (not_mem_headersIn first)
      (headersIn_eq_nil fun line member => (others line member).1)
  | @inserted front body gap back head first heads others blank visible ends =>
    rw [itemsOf_append, itemsOf_cons, itemOf?_of_headerName? heads]
    exact endsIn_append_header (not_mem_headersIn first)
      (headersIn_eq_nil fun line member => (others line (by simp [member])).1)
  | appended absent =>
    rw [itemsOf_append, itemsOf_append, itemsOf_separator, List.append_nil, itemsOf_cons,
      itemOf?_headerLine plainName]
    exact endsIn_append_header (not_mem_headersIn absent) rfl

/-- A line that an edit takes for a setting of the key is one among closed lines. -/
theorem ClosedLine.itemOf?_of_keyName? {line : Text} (closed : ClosedLine ending line)
    (inside : isHeader line = false) (sets : keyName? line = some key) :
    ∃ value, itemOf? line = some (.entry key value) :=
  (closed.of_keyName? inside sets).2.2

include parts plainName in
/-- The items of the text, as they lie on the two sides of the seam: an entry of the key between
them, nothing between them, or a header more before it. -/
theorem Seam.items_cases (closed : ∀ line ∈ ls, ClosedLine ending line) :
    (name ∈ headersIn (itemsOf ls) ∧ ∃ previous,
      itemsOf ls = itemsOf before ++ .entry key previous :: itemsOf after) ∨
    (name ∈ headersIn (itemsOf ls) ∧ itemsOf ls = itemsOf before ++ itemsOf after) ∨
    (name ∉ headersIn (itemsOf ls) ∧ itemsOf before = itemsOf ls ++ [.header name] ∧
      itemsOf after = []) := by
  have heading : ∀ {front rest : List Text} {head : Text}, headerName? head = some name →
      name ∈ headersIn (itemsOf (front ++ head :: rest)) := by
    intro front rest head heads
    rw [headersIn_itemsOf, List.mem_filterMap]
    exact ⟨head, by simp, heads⟩
  cases parts with
  | @replaced front body back head old first heads others inside sets =>
    obtain ⟨previous, item⟩ := (closed old (by simp)).itemOf?_of_keyName? inside sets
    refine .inl ⟨heading heads, previous, ?_⟩
    simp [itemsOf_cons, item]
  | @inserted front body gap back head first heads others blank visible ends =>
    refine .inr (.inl ⟨heading heads, ?_⟩)
    simp [itemsOf_cons]
  | appended absent =>
    refine .inr (.inr ⟨not_mem_headersIn absent, ?_, rfl⟩)
    rw [itemsOf_append, itemsOf_append, itemsOf_separator, itemsOf_cons,
      itemOf?_headerLine plainName]
    simp

include parts plainName in
/-- The seam adds its entry to the look-ups of its own pair only. -/
theorem Seam.valueIn_other (closed : ∀ line ∈ ls, ClosedLine ending line) (value : Text)
    {otherName otherKey : Text} (other : ¬ (otherName = name ∧ otherKey = key)) :
    valueIn otherName otherKey (itemsOf before ++ .entry key value :: itemsOf after) =
      valueIn otherName otherKey (itemsOf ls) := by
  have ends := parts.endsIn plainName
  have elsewhere : ¬ (Ini.endsIn otherName (itemsOf before) = true ∧ key = otherKey) := by
    rintro ⟨endsOther, rfl⟩
    have same := getLast?_of_endsIn ends
    rw [getLast?_of_endsIn endsOther] at same
    exact other ⟨Option.some.inj same, rfl⟩
  obtain ⟨-, previous, whole⟩ | ⟨-, whole⟩ | ⟨absent, front, back⟩ :=
    parts.items_cases plainName closed
  · rw [whole, valueIn_insert, valueIn_insert, if_neg elsewhere, if_neg elsewhere]
  · rw [whole, valueIn_insert, if_neg elsewhere]
  · have newSection := valueIn_newSection absent otherName otherKey key value
    rw [if_neg other] at newSection
    simpa [front, back] using newSection

include parts plainName in
/-- The seam adds the header of its section unless there is one. -/
theorem Seam.headersIn (closed : ∀ line ∈ ls, ClosedLine ending line) (value : Text) :
    headersIn (itemsOf before ++ .entry key value :: itemsOf after) =
      if name ∈ headersIn (itemsOf ls) then headersIn (itemsOf ls)
      else headersIn (itemsOf ls) ++ [name] := by
  obtain ⟨present, previous, whole⟩ | ⟨present, whole⟩ | ⟨absent, front, back⟩ :=
    parts.items_cases plainName closed
  · rw [if_pos present, whole]
    simp
  · rw [if_pos present, whole]
    simp
  · rw [if_neg absent, front, back]
    simp

include parts plainName in
/-- Before the seam, the section has no value of the key. -/
theorem Seam.valueIn_eq_none (closed : ∀ line ∈ ls, ClosedLine ending line)
    (noIndented : NoIndented key (firstBlock name ls)) :
    valueIn name key (itemsOf before) = none := by
  have unset : ∀ {front body rest : List Text} {head : Text}, ls = front ++ head :: (body ++ rest) →
      (∀ line ∈ front, headerName? line ≠ some name) → headerName? head = some name →
      (∀ line ∈ body, isHeader line = false ∧ keyName? line ≠ some key) →
      valueIn name key (itemsOf (front ++ head :: body)) = none := by
    intro front body rest head whole first heads others
    rw [itemsOf_append, itemsOf_cons, itemOf?_of_headerName? heads]
    apply (valueIn_append_header (not_mem_headersIn first) key _).trans
    refine entryIn_eq_none fun line member sets => ?_
    obtain ⟨inside, noKey⟩ := others line member
    have inBlock : line ∈ firstBlock name ls := by
      rw [whole, firstBlock_append first heads]
      exact mem_takeWhile_append (fun l m => (others l m).1) member
    cases outdented : isIndented line with
    | true => exact noIndented line inBlock outdented sets
    | false =>
      have closedLine := closed line (by simp [whole, member])
      exact noKey (closedLine.keyName?_of_setting inside outdented sets)
  cases parts with
  | @replaced front body back head old first heads others inside sets =>
    exact unset rfl first heads others
  | @inserted front body gap back head first heads others blank visible ends =>
    rw [List.append_assoc] at unset
    exact unset rfl first heads fun line member => others line (by simp [member])
  | appended absent =>
    rw [itemsOf_append, itemsOf_append, itemsOf_separator, List.append_nil, itemsOf_cons,
      itemOf?_headerLine plainName]
    exact valueIn_append_header (not_mem_headersIn absent) key []

end Sides

end Edit

end ProfilePicker.Ini
