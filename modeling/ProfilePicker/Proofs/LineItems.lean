import ProfilePicker.Proofs.Plain

/-!
# What a line says

The item of a single line, found by looking at the line as a whole: a header by its brackets,
a setting by its first equals sign. For closed lines this is also what an edit of the text
goes by, except that an edit passes over indented settings.
-/
namespace ProfilePicker.Ini

open Text (OneLine Trimmed)

/-- The key and the value of a line that is a setting, indented or not. -/
def settingOf? : Text → Option Entry
  | [] => none
  | c :: line =>
    if startsComment c then none
    else (Text.splitAt? '=' (c :: line)).map fun (key, value) => (key.trim, value.trim)

/-- The item of a line. -/
def itemOf? (line : Text) : Option Item :=
  match headerName? line with
  | some name => some (.header name)
  | none => (settingOf? line).map fun (key, value) => .entry key value

/-- The items of some lines. -/
def itemsOf (ls : List Text) : List Item := ls.filterMap itemOf?

/-- Whether a line is indented. -/
def isIndented (line : Text) : Bool := (line.head?.map isBlank).getD false

@[simp]
theorem itemsOf_append (ls more : List Text) :
    itemsOf (ls ++ more) = itemsOf ls ++ itemsOf more := by
  simp [itemsOf]

@[simp]
theorem itemsOf_nil : itemsOf [] = [] := rfl

theorem itemsOf_cons (line : Text) (ls : List Text) :
    itemsOf (line :: ls) = (itemOf? line).toList ++ itemsOf ls := by
  cases found : itemOf? line <;> simp [itemsOf, found]

/-! ## Blank lines and comments -/

/-- Blank lines head no section. -/
theorem headerName?_of_indents {line : Text} (indents : ∀ c ∈ line, isIndent c = true) :
    headerName? line = none := by
  rw [headerName?, Text.trim_eq_nil_iff.2 (isBlank_of_indents indents)]

/-- Blank lines set no key. -/
theorem settingOf?_of_indents {line : Text} (indents : ∀ c ∈ line, isIndent c = true) :
    settingOf? line = none := by
  cases line with
  | nil => rfl
  | cons c line =>
    have absent : '=' ∉ c :: line := fun member => by
      have := indents '=' member
      simp [isIndent] at this
    have noSplit : Text.splitAt? '=' (c :: line) = none := by
      cases split : Text.splitAt? '=' (c :: line) with
      | none => rfl
      | some parts =>
        obtain ⟨before, after⟩ := parts
        have := (Text.splitAt?_eq_some_iff.1 split).2
        exact absurd (by rw [this]; simp) absent
    simp [settingOf?, noSplit]

/-- Blank lines say nothing. -/
theorem itemOf?_of_indents {line : Text} (indents : ∀ c ∈ line, isIndent c = true) :
    itemOf? line = none := by
  rw [itemOf?, headerName?_of_indents indents, settingOf?_of_indents indents]
  rfl

/-- The mark of a comment is visible and opens no header. -/
theorem visible_of_startsComment {c : Char} (marks : startsComment c = true) :
    isBlank c = false ∧ c ≠ '[' := by
  have known : c = ';' ∨ c = '#' := by simpa [startsComment] using marks
  rcases known with rfl | rfl <;> decide

/-- Comments head no section. -/
theorem headerName?_comment {mark : Char} (marks : startsComment mark = true) (rest : Text) :
    headerName? (mark :: rest) = none := by
  obtain ⟨visible, noBracket⟩ := visible_of_startsComment marks
  have trimmed : Text.trim (mark :: rest) = mark :: Text.trimEnd rest :=
    Text.trim_cons_visible visible rest
  rw [headerName?, trimmed]
  split
  · rename_i same
    exact absurd (List.cons.inj same).1 noBracket
  · rfl

/-- Comments say nothing. -/
theorem itemOf?_comment {mark : Char} (marks : startsComment mark = true) (rest : Text) :
    itemOf? (mark :: rest) = none := by
  rw [itemOf?, headerName?_comment marks, settingOf?, if_pos marks]
  rfl

/-! ## Headers -/

/-- The characters of a header line. -/
theorem headerLine_eq (name : Text) : headerLine name = '[' :: (name ++ [']']) := by
  simp [headerLine]

/-- A header line heads the section that it names unless a bracket in the name closes it. -/
theorem headerName?_headerLine_iff {name : Text} (trimmed : Trimmed name) :
    headerName? (headerLine name) = some name ↔ ']' ∉ name := by
  have whole : (headerLine name).trim = '[' :: (name ++ [']']) := by
    rw [headerLine_eq]
    refine Text.trimmed_iff.2 ⟨fun c first => ?_, fun c last => ?_⟩
    · obtain rfl : '[' = c := by simpa using first
      decide
    · obtain rfl : ']' = c := by simpa [List.getLast?_cons, List.getLast?_append] using last
      decide
  have same : name.trim = name := trimmed
  rw [headerName?, whole]
  dsimp only
  constructor
  · intro heads member
    obtain ⟨⟨before, behind⟩, split, named⟩ := Option.map_eq_some_iff.1 heads
    rw [← named] at member
    exact (Text.splitAt?_eq_some_iff.1 split).1 (Text.mem_of_mem_trim member)
  · intro noBracket
    have split : Text.splitAt? ']' (name ++ [']']) = some (name, []) :=
      Text.splitAt?_eq_some_iff.2 ⟨noBracket, rfl⟩
    simp [split, same]

/-- A header line heads the section that it names when the name is plain. -/
theorem headerName?_headerLine {name : Text} (plain : PlainName name) :
    headerName? (headerLine name) = some name :=
  (headerName?_headerLine_iff plain.trimmed).2 plain.noBracket

/-- A header line says where its section begins. -/
theorem itemOf?_headerLine {name : Text} (plain : PlainName name) :
    itemOf? (headerLine name) = some (.header name) := by
  rw [itemOf?, headerName?_headerLine plain]

/-! ## Settings -/

/-- No character indents a line that is not indented. -/
theorem indents_nil : ∀ c ∈ ([] : Text), isIndent c = true := by simp

section Settings

variable {indent key pad : Text} (indents : ∀ c ∈ indent, isIndent c = true)
  (plain : PlainKey key) (pads : ∀ c ∈ pad, isIndent c = true) (value : Text)

include plain in
/-- A plain key begins with a visible character that begins neither a header nor a comment. -/
theorem PlainKey.exists_cons : ∃ c rest, key = c :: rest ∧ isBlank c = false ∧ c ≠ '[' ∧
    startsComment c = false := by
  obtain ⟨c, rest, rfl⟩ := List.exists_cons_of_ne_nil plain.nonempty
  obtain ⟨noBracket, noComment⟩ := plain.start c rfl
  exact ⟨c, rest, rfl, plain.visible rfl, noBracket, noComment⟩

include indents plain in
/-- Settings head no section. -/
theorem headerName?_settingLine : headerName? (settingLine indent key pad value) = none := by
  obtain ⟨c, rest, rfl, visible, noBracket, -⟩ := plain.exists_cons
  have trimmed : (settingLine indent (c :: rest) pad value).trim =
      c :: Text.trimEnd (rest ++ pad ++ '=' :: value) := by
    rw [settingLine, List.append_assoc, List.append_assoc]
    simpa using Text.trim_visible (isBlank_of_indents indents) visible
      (rest ++ pad ++ '=' :: value)
  rw [headerName?, trimmed]
  split
  · rename_i same
    exact absurd (List.cons.inj same).1 noBracket
  · rfl

include indents plain pads in
/-- Nothing before the equals sign of a setting is one. -/
theorem noEquals_settingLine : '=' ∉ indent ++ key ++ pad := by
  simp only [List.mem_append]
  rintro ((member | member) | member)
  · simpa [isIndent] using indents _ member
  · simpa [isDelimiter] using plain.noDelimiter _ member
  · simpa [isIndent] using pads _ member

include indents plain pads in
/-- What stands before the equals sign of a setting is its key, spaces and tabs apart. -/
theorem trim_key : (indent ++ key ++ pad).trim = key :=
  plain.trimmed.trim_between (isBlank_of_indents indents) (isBlank_of_indents pads)

include indents plain pads in
/-- A setting gives its key the trimmed text behind the equals sign. -/
theorem settingOf?_settingLine :
    settingOf? (settingLine indent key pad value) = some (key, value.trim) := by
  have split : Text.splitAt? '=' (settingLine indent key pad value) =
      some (indent ++ key ++ pad, value) :=
    Text.splitAt?_eq_some_iff.2 ⟨noEquals_settingLine indents plain pads, rfl⟩
  have noComment : ∀ c, (settingLine indent key pad value).head? = some c →
      startsComment c = false := by
    intro c first
    cases indent with
    | nil =>
      obtain ⟨d, rest, rfl, -, -, other⟩ := plain.exists_cons
      have : d = c := by simpa [settingLine] using first
      rw [← this]
      exact other
    | cons d indent =>
      have same : d = c := by simpa [settingLine] using first
      have := indents d List.mem_cons_self
      have known : d = ' ' ∨ d = '\t' := by simpa [isIndent] using this
      rw [← same]
      rcases known with rfl | rfl <;> decide
  have trimmed := trim_key indents plain pads
  cases line : settingLine indent key pad value with
  | nil => simp [settingLine] at line
  | cons c rest =>
    rw [line] at split noComment
    rw [settingOf?, noComment c rfl, split]
    simp only [Bool.false_eq_true, if_false, Option.map_some, trimmed]

include indents plain pads in
/-- A setting says that its key has its value. -/
theorem itemOf?_settingLine :
    itemOf? (settingLine indent key pad value) = some (.entry key value.trim) := by
  rw [itemOf?, headerName?_settingLine indents plain, settingOf?_settingLine indents plain pads]
  rfl

include plain pads in
/-- A setting that is not indented sets its key. -/
theorem keyName?_settingLine : keyName? (settingLine [] key pad value) = some key := by
  have visibleEquals : isBlank '=' = false := by decide
  obtain ⟨c, rest, rfl, visible, -, noComment⟩ := plain.exists_cons
  have trimmed : (settingLine [] (c :: rest) pad value).trim =
      (c :: rest ++ pad) ++ '=' :: value.trimEnd := by
    have start := Text.trim_cons_visible visible (rest ++ pad ++ '=' :: value)
    rw [Text.trimEnd_append_visible visibleEquals] at start
    simpa [settingLine] using start
  have split : Text.splitAt? '=' ((c :: rest ++ pad) ++ '=' :: value.trimEnd) =
      some (c :: rest ++ pad, value.trimEnd) :=
    Text.splitAt?_eq_some_iff.2
      ⟨by simpa using noEquals_settingLine indents_nil plain pads, rfl⟩
  have same : Text.trim (c :: rest ++ pad) = c :: rest :=
    trim_key indents_nil plain pads
  have marks : c ≠ '#' ∧ c ≠ ';' := by
    simpa [startsComment, and_comm] using noComment
  have line : settingLine [] (c :: rest) pad value = c :: (rest ++ pad ++ '=' :: value) := by
    simp [settingLine]
  rw [line] at trimmed ⊢
  rw [keyName?, trimmed, split]
  simp only [visible, marks.1, marks.2, decide_false, Bool.or_false, Bool.false_eq_true, if_false,
    Option.map_some, same]

end Settings

/-- An indented line sets no key that an edit would look at. -/
theorem keyName?_of_isIndented {line : Text} (indented : isIndented line = true) :
    keyName? line = none := by
  cases line with
  | nil => rfl
  | cons c rest =>
    have blank : isBlank c = true := by simpa [isIndented] using indented
    simp [keyName?, blank]

/-- The line that gives a key a value is a setting. -/
theorem entryLine_eq (key value : Text) :
    entryLine key value = settingLine [] key [' '] (' ' :: value) := by
  simp [entryLine, settingLine]

/-- A comment sets no key that an edit would look at. -/
theorem keyName?_comment {mark : Char} (marks : startsComment mark = true) (rest : Text) :
    keyName? (mark :: rest) = none := by
  have known : mark = '#' ∨ mark = ';' := by simpa [startsComment, or_comm] using marks
  simp [keyName?, or_assoc, known]

/-- The names in plain header lines are plain. -/
theorem PlainLine.plainName {line name : Text} (plain : PlainLine line)
    (heads : headerName? line = some name) : PlainName name := by
  cases plain with
  | blank indents =>
    rw [headerName?_of_indents indents] at heads
    cases heads
  | comment marks oneLine =>
    rw [headerName?_comment marks] at heads
    cases heads
  | header plain =>
    rw [headerName?_headerLine plain] at heads
    cases heads
    exact plain
  | setting indents plain pads oneLine noBackslash =>
    rw [headerName?_settingLine indents plain] at heads
    cases heads

/-- A closed line that an edit takes for a setting of a key is one. -/
theorem ClosedLine.of_keyName? {ending line key : Text} (closed : ClosedLine ending line)
    (noHeader : isHeader line = false) (found : keyName? line = some key) :
    PlainKey key ∧ isIndented line = false ∧ ∃ value, itemOf? line = some (.entry key value) := by
  cases closed with
  | blank indents =>
    exfalso
    cases line with
    | nil => simp [keyName?] at found
    | cons c rest =>
      have blank := isBlank_of_isIndent (indents c List.mem_cons_self)
      rw [keyName?_of_isIndented (by simp [isIndented, blank])] at found
      cases found
  | comment marks oneLine =>
    rw [keyName?_comment marks] at found
    cases found
  | @header name plain =>
    simp [isHeader, headerName?_headerLine plain] at noHeader
  | @setting indent other pad value indents plain pads oneLine closed =>
    cases indent with
    | nil =>
      rw [keyName?_settingLine plain pads] at found
      obtain rfl := Option.some.inj found
      have item := itemOf?_settingLine indents_nil plain pads value
      obtain ⟨c, rest, rfl, visible, -⟩ := plain.exists_cons
      exact ⟨plain, by simp [settingLine, isIndented, visible], _, item⟩
    | cons c indent =>
      have blank := isBlank_of_isIndent (indents c List.mem_cons_self)
      rw [keyName?_of_isIndented (by simp [settingLine, isIndented, blank])] at found
      cases found

end ProfilePicker.Ini
