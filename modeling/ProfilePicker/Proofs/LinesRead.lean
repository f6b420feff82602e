import ProfilePicker.Proofs.Blocks
import ProfilePicker.Proofs.ClosedTexts
import ProfilePicker.Proofs.Taken

/-!
# The lines that look-ups read

The reader goes through a settings text character by character, and the editor line by line. In a
plain text both find the same: the sections are those of the header lines, and a look-up reads the
first setting of its key behind the first header of its section. That is also the line that an edit
replaces, unless the reader takes an indented line for a setting of the key, which an edit passes
over.
-/
namespace ProfilePicker.Ini

open Text (joinLines)

variable {name key value line : Text} {ls before after : List Text}

/-! ## Settings and where they stand -/

/-- A line that gives a key a value: it is no comment, and its first equals sign stands between the
two, blanks apart. It may be indented. -/
def Gives (key value line : Text) : Prop :=
  (∀ c, line.head? = some c → startsComment c = false) ∧
    ∃ front back, line = front ++ '=' :: back ∧ '=' ∉ front ∧ Text.trim front = key ∧
      Text.trim back = value

/-- A line that gives a key some value. -/
def GivesKey (key line : Text) : Prop := ∃ value, Gives key value line

/-- The first line of a kind behind the first header of a section and before the next header, with
all lines before it. -/
inductive FirstIn (name : Text) (kind : Text → Prop) : List Text → Text → Prop
  /-- The lines before it end with the first header of the section and lines of other kinds. -/
  | behind {front body : List Text} {head line : Text}
      (first : ∀ l ∈ front, ¬Heads name l) (heads : Heads name head)
      (others : ∀ l ∈ body, (∀ other, ¬Heads other l) ∧ ¬kind l)
      (inside : ∀ other, ¬Heads other line) (here : kind line) :
      FirstIn name kind (front ++ head :: body) line

/-- What the editor tells apart about a first line of a kind and the lines before it. -/
theorem firstIn_iff {kind : Text → Prop} : FirstIn name kind before line ↔
    ∃ front head body, before = front ++ head :: body ∧ (∀ l ∈ front, headerName? l ≠ some name) ∧
      headerName? head = some name ∧ (∀ l ∈ body, isHeader l = false ∧ ¬kind l) ∧
      isHeader line = false ∧ kind line := by
  simp only [ne_eq, headerName?_eq_some_iff, isHeader_eq_false_iff]
  constructor
  · rintro ⟨first, heads, others, inside, here⟩
    exact ⟨_, _, _, rfl, first, heads, others, inside, here⟩
  · rintro ⟨front, head, body, rfl, first, heads, others, inside, here⟩
    exact .behind first heads others inside here

/-- The settings among the lines are those that give a key a value. -/
theorem settingOf?_eq_some_iff : settingOf? line = some (key, value) ↔ Gives key value line := by
  cases line with
  | nil => simp [settingOf?, Gives]
  | cons c rest =>
    rw [settingOf?]
    by_cases marks : startsComment c = true
    · simp [Gives, marks]
    · rw [if_neg marks, Option.map_eq_some_iff]
      constructor
      · rintro ⟨⟨front, back⟩, split, named⟩
        obtain ⟨apart, whole⟩ := Text.splitAt?_eq_some_iff.1 split
        obtain ⟨keyed, valued⟩ := Prod.mk.inj named
        exact ⟨by simpa using marks, front, back, whole, apart, keyed, valued⟩
      · rintro ⟨-, front, back, whole, apart, keyed, valued⟩
        exact ⟨(front, back), Text.splitAt?_eq_some_iff.2 ⟨apart, whole⟩,
          Prod.ext keyed valued⟩

/-- A line gives a key some value exactly when it is a setting of the key. -/
theorem givesKey_iff : GivesKey key line ↔ (settingOf? line).map Prod.fst = some key := by
  simp only [GivesKey, ← settingOf?_eq_some_iff, Option.map_eq_some_iff, Prod.exists]
  constructor
  · rintro ⟨value, sets⟩
    exact ⟨key, value, sets, rfl⟩
  · rintro ⟨k, value, sets, rfl⟩
    exact ⟨value, sets⟩

/-! ## What items answer -/

/-- The first value of a key before the next header is that of the first setting there. -/
theorem entryIn_itemsOf_eq_some_iff : entryIn key (itemsOf ls) = some value ↔
    ∃ body line rest, ls = body ++ line :: rest ∧
      (∀ l ∈ body, isHeader l = false ∧ ¬GivesKey key l) ∧ isHeader line = false ∧
      Gives key value line := by
  induction ls with
  | nil => simp [entryIn]
  | cons l ls ih =>
    -- The line in question is the first one, or the first one is none that matters.
    have split : (∃ body line rest, l :: ls = body ++ line :: rest ∧
          (∀ l ∈ body, isHeader l = false ∧ ¬GivesKey key l) ∧ isHeader line = false ∧
          Gives key value line) ↔
        isHeader l = false ∧ (Gives key value l ∨ ¬GivesKey key l ∧
          entryIn key (itemsOf ls) = some value) := by
      rw [ih]
      constructor
      · rintro ⟨body, line, rest, whole, others, inside, gives⟩
        cases body with
        | nil =>
          obtain ⟨rfl, rfl⟩ := List.cons.inj whole
          exact ⟨inside, .inl gives⟩
        | cons b body =>
          obtain ⟨rfl, rfl⟩ := List.cons.inj whole
          rw [List.forall_mem_cons] at others
          exact ⟨others.1.1, .inr ⟨others.1.2, body, line, rest, rfl, others.2, inside, gives⟩⟩
      · rintro ⟨inside, gives | ⟨other, body, line, rest, rfl, others, insideLine, gives⟩⟩
        · exact ⟨[], l, ls, rfl, by simp, inside, gives⟩
        · exact ⟨l :: body, line, rest, rfl, List.forall_mem_cons.2 ⟨⟨inside, other⟩, others⟩,
            insideLine, gives⟩
    rw [split, itemsOf_cons, itemOf?, givesKey_iff, ← settingOf?_eq_some_iff]
    cases heads : headerName? l with
    | some n => simp [isHeader, heads, entryIn]
    | none =>
      cases sets : settingOf? l with
      | none => simp [isHeader, heads]
      | some e =>
        by_cases same : e.1 = key
        · simp [isHeader, heads, entryIn, same, Prod.ext_iff]
        · simp [isHeader, heads, entryIn, same, Prod.ext_iff]

/-- A look-up finds the value of the first setting of its key behind the first header of its
section and before the next header. -/
theorem valueIn_itemsOf_eq_some_iff : valueIn name key (itemsOf ls) = some value ↔
    ∃ before line after, ls = before ++ line :: after ∧ FirstIn name (GivesKey key) before line ∧
      Gives key value line := by
  have behindHeader : ∀ {front rest : List Text} {head : Text},
      (∀ l ∈ front, headerName? l ≠ some name) → headerName? head = some name →
      valueIn name key (itemsOf (front ++ head :: rest)) = entryIn key (itemsOf rest) := by
    intro front rest head first heads
    rw [itemsOf_append, itemsOf_cons, itemOf?_of_headerName? heads]
    exact valueIn_append_header (not_mem_headersIn first) key _
  constructor
  · intro found
    have headed : ∃ l ∈ ls, headerName? l = some name := by
      have member := (mem_of_valueIn found).1
      rw [headersIn_itemsOf, List.mem_filterMap] at member
      exact member
    obtain ⟨front, head, rest, rfl, first, heads⟩ := exists_first headed
    rw [behindHeader first heads] at found
    obtain ⟨body, line, rest, rfl, others, inside, gives⟩ := entryIn_itemsOf_eq_some_iff.1 found
    refine ⟨front ++ head :: body, line, rest, by simp, ?_, gives⟩
    exact firstIn_iff.2 ⟨front, head, body, rfl, first, heads, others, inside, value, gives⟩
  · rintro ⟨before, line, after, rfl, there, gives⟩
    obtain ⟨front, head, body, rfl, first, heads, others, inside, -⟩ := firstIn_iff.1 there
    rw [List.append_assoc, List.cons_append, behindHeader first heads]
    exact entryIn_itemsOf_eq_some_iff.2 ⟨body, line, after, rfl, others, inside, gives⟩

/-! ## What edits replace -/

/-- Kinds that agree on the block of a section have their first lines there at the same place. -/
theorem FirstIn.congr {kind kind' : Text → Prop}
    (same : ∀ l ∈ firstBlock name (before ++ line :: after), kind l ↔ kind' l)
    (there : FirstIn name kind before line) : FirstIn name kind' before line := by
  obtain ⟨front, head, body, rfl, first, heads, others, inside, here⟩ := firstIn_iff.1 there
  have insideAll : ∀ l ∈ body ++ [line], isHeader l = false := by
    intro l member
    rcases List.mem_append.1 member with inBody | atLine
    · exact (others l inBody).1
    · rw [List.mem_singleton.1 atLine]
      exact inside
  have inBlock : ∀ l ∈ body ++ [line],
      l ∈ firstBlock name (front ++ head :: body ++ line :: after) := by
    intro l member
    have shape : front ++ head :: body ++ line :: after =
        front ++ head :: (body ++ [line] ++ after) := by simp
    rw [shape, firstBlock_append first heads]
    exact mem_takeWhile_append insideAll member
  refine firstIn_iff.2 ⟨front, head, body, rfl, first, heads, fun l member => ?_, inside,
    (same line (inBlock line (by simp))).1 here⟩
  exact ⟨(others l member).1, (others l member).2 ∘ (same l (inBlock l (by simp [member]))).2⟩

/-- Without indented settings of the key, an edit looks for the lines of a block that a look-up
reads. -/
theorem ClosedLine.sets_iff_givesKey {ending : Text} (closed : ClosedLine ending line)
    (inside : isHeader line = false)
    (outdented : isIndented line = true → ¬GivesKey key line) :
    Sets key line ↔ GivesKey key line := by
  rw [givesKey_iff] at outdented ⊢
  rw [← keyName?_eq_some_iff]
  constructor
  · intro sets
    obtain ⟨-, -, value, item⟩ := closed.of_keyName? inside sets
    cases heads : headerName? line with
    | some n => simp [isHeader, heads] at inside
    | none =>
      rw [itemOf?, heads] at item
      cases found : settingOf? line with
      | none => simp [found] at item
      | some e =>
        obtain ⟨rfl, -⟩ : e.1 = key ∧ e.2 = value := by simpa [found] using item
        rfl
  · intro gives
    cases indented : isIndented line with
    | true => exact absurd gives (outdented indented)
    | false => exact closed.keyName?_of_setting inside indented gives

/-- An edit replaces the first line of the block that sets the key. -/
theorem FirstIn.setInLines (there : FirstIn name (Sets key) before line) (value : Text)
    (after : List Text) :
    setInLines name key value (before ++ line :: after) =
      before ++ entryLine key value :: after := by
  obtain ⟨front, head, body, rfl, first, heads, others, inside, here⟩ := firstIn_iff.1 there
  obtain ⟨body', tail, rfl, inside', ends⟩ := exists_block after
  have insideAll : ∀ l ∈ body ++ line :: body', isHeader l = false := by
    simp only [List.mem_append, List.mem_cons]
    rintro l (inBody | rfl | behind)
    · exact (others l inBody).1
    · exact inside
    · exact inside' l behind
  have shape : front ++ head :: body ++ line :: (body' ++ tail) =
      front ++ head :: (body ++ line :: body' ++ tail) := by simp
  rw [shape, setInLines_of_headed first heads, setInBlock_append insideAll ends,
    setInBody_of_set (fun l member => (others l member).2 ∘ keyName?_eq_some_iff.1)
      (keyName?_eq_some_iff.2 here)]
  simp

/-- Where no line of the block sets the key, an edit replaces none. -/
theorem exists_added (unset : ∀ before line after, ls = before ++ line :: after →
      ¬FirstIn name (Sets key) before line) :
    ∃ before added after, ls = before ++ after ∧
      ∀ value, setInLines name key value ls = before ++ added ++ entryLine key value :: after := by
  have parts := seam_spec name key ls
  have edited := fun value => setInLines_eq name key value ls
  generalize (seam name key ls).1 = before, (seam name key ls).2 = after at parts edited
  cases parts with
  | @replaced front body back head old first heads others inside sets =>
    refine absurd (firstIn_iff.2 ?_) (unset (front ++ head :: body) old after (by simp))
    simp only [ne_eq, keyName?_eq_some_iff] at others sets
    exact ⟨front, head, body, rfl, first, heads, others, inside, sets⟩
  | @inserted front body gap back head first heads others blank visible ends =>
    exact ⟨front ++ head :: body, [], gap ++ back, by simp, by simpa using edited⟩
  | appended absent =>
    exact ⟨ls, separator ls ++ [headerLine name], [], by simp, by simpa using edited⟩

/-! ## Plain documents -/

/-- A document that says what its lines say one by one. -/
structure Document.ReadsLines (d : Document) : Prop where
  /-- The sections are those of the header lines, each once, in their order. -/
  sections : d.sections = distinct (d.text.lines.filterMap headerName?)
  /-- There is a section exactly when a line heads it. -/
  has : ∀ name, d.has name = true ↔ ∃ line ∈ d.text.lines, Heads name line
  /-- A look-up reads the first setting of its key, indented or not, behind the first header of its
  section and before the next header. -/
  get : ∀ name key value, d.get? name key = some value ↔ ∃ before line after,
    d.text.lines = before ++ line :: after ∧ FirstIn name (GivesKey key) before line ∧
      Gives key value line
  /-- Unless an indented line of the block sets the key, an edit looks for the same line, -/
  same : ∀ name key, NoIndented key (firstBlock name d.text.lines) → ∀ before line after,
    d.text.lines = before ++ line :: after →
      (FirstIn name (Sets key) before line ↔ FirstIn name (GivesKey key) before line)
  /-- and finds it exactly when the look-up finds a value. -/
  found : ∀ name key, NoIndented key (firstBlock name d.text.lines) →
    ((∃ before line after, d.text.lines = before ++ line :: after ∧
      FirstIn name (Sets key) before line) ↔ (d.get? name key).isSome = true)
  /-- It replaces the line that it finds, -/
  replaces : ∀ name key before line after, d.text.lines = before ++ line :: after →
    FirstIn name (Sets key) before line → ∀ value, (d.set name key value).text =
      joinLines d.text.lineEnding (before ++ entryLine key value :: after)
  /-- and if it finds none, it keeps all lines. -/
  keeps : ∀ name key, (∀ before line after, d.text.lines = before ++ line :: after →
      ¬FirstIn name (Sets key) before line) →
    ∃ before added after, d.text.lines = before ++ after ∧ ∀ value, (d.set name key value).text =
      joinLines d.text.lineEnding (before ++ added ++ entryLine key value :: after)

/-- In a plain text, an edit and a look-up go by the same line. -/
theorem PlainText.firstIn_iff {s : Text} (plain : PlainText s)
    (noIndented : NoIndented key (firstBlock name s.lines))
    (whole : s.lines = before ++ line :: after) :
    FirstIn name (Sets key) before line ↔ FirstIn name (GivesKey key) before line := by
  have agree : ∀ l ∈ firstBlock name (before ++ line :: after), Sets key l ↔ GivesKey key l := by
    intro l member
    rw [← whole] at member
    have closed := plain.closed.closed l (mem_of_mem_firstBlock member)
    refine closed.sets_iff_givesKey (isHeader_of_mem_firstBlock member) fun indented gives => ?_
    exact noIndented l member indented (givesKey_iff.1 gives)
  exact ⟨.congr agree, .congr fun l member => (agree l member).symm⟩

/-- **The reader and the editor see the same entries in a plain text.** It can be read; its sections
and its look-ups are those of its lines, one by one; and the line that a look-up reads is the one
that an edit replaces, unless an indented line of the block sets the key. -/
theorem PlainText.readsLines {s : Text} (plain : PlainText s) :
    ∃ d, Document.parse s = .ok d ∧ d.text = s ∧ d.ReadsLines := by
  have sections : (Contents.ofItems (itemsOf s.lines)).names =
      distinct (s.lines.filterMap headerName?) := by
    rw [names_ofItems, headersIn_itemsOf]
  have get : ∀ name key value, (Contents.ofItems (itemsOf s.lines)).get? name key = some value ↔
      ∃ before line after, s.lines = before ++ line :: after ∧
        FirstIn name (GivesKey key) before line ∧ Gives key value line := by
    intro name key value
    rw [get?_ofItems]
    exact valueIn_itemsOf_eq_some_iff
  refine ⟨_, plain.closed.parse_eq, rfl, sections, fun name => ?_, get,
    fun name key noIndented before line after whole => plain.firstIn_iff noIndented whole,
    fun name key noIndented => ?_, fun name key before line after whole there value => ?_,
    fun name key unset => ?_⟩
  · refine (Contents.has_iff _ name).trans ?_
    rw [sections, mem_distinct, List.mem_filterMap]
    simp only [headerName?_eq_some_iff]
  · rw [Option.isSome_iff_exists]
    constructor
    · rintro ⟨before, line, after, whole, there⟩
      have read := (plain.firstIn_iff noIndented whole).1 there
      obtain ⟨value, gives⟩ : GivesKey key line := by cases read; assumption
      exact ⟨value, (get name key value).2 ⟨before, line, after, whole, read, gives⟩⟩
    · rintro ⟨value, found⟩
      obtain ⟨before, line, after, whole, read, -⟩ := (get name key value).1 found
      exact ⟨before, line, after, whole, (plain.firstIn_iff noIndented whole).2 read⟩
  · change Ini.setLine s name key value = _
    rw [Ini.setLine, show s.lines = before ++ line :: after from whole, there.setInLines]
  · obtain ⟨before, added, after, whole, edited⟩ := exists_added unset
    refine ⟨before, added, after, whole, fun value => ?_⟩
    change Ini.setLine s name key value = _
    rw [Ini.setLine, edited]

/-- A look-up reads an indented setting of the first of two blocks, and an edit of another pair
replaces the line that a look-up of it reads. -/
theorem readsLines_nested :
    ∃ d, Document.parse "[a]\r\nx = 1\r\n\ty = 2\r\n[a]\r\ny = 3\r\n" = .ok d ∧
      d.sections = [("a" : Text)] ∧ d.get? "a" "y" = some ("2" : Text) ∧
      (d.get? "a" "x").isSome = true ∧
      (d.set "a" "x" "4").text = "[a]\r\nx = 4\r\n\ty = 2\r\n[a]\r\ny = 3\r\n" := by
  have plain : PlainText "[a]\r\nx = 1\r\n\ty = 2\r\n[a]\r\ny = 3\r\n" := by
    refine ⟨Text.longEnding, [headerLine "a", entryLine "x" "1", settingLine "\t" "y" " " " 2",
      headerLine "a", entryLine "y" "3"], .inr rfl, ?_, rfl⟩
    simp only [List.forall_mem_cons, List.not_mem_nil, false_implies, implies_true, and_true]
    exact ⟨.header (by decide), plainLine_entryLine (by decide) (by decide),
      .setting (by decide) (by decide) (by decide) (by decide) (by decide), .header (by decide),
      plainLine_entryLine (by decide) (by decide)⟩
  obtain ⟨d, read, text, reads⟩ := plain.readsLines
  have lines : d.text.lines = (["[a]", "x = 1", "\ty = 2", "[a]", "y = 3"] : List Text) := by
    rw [text]
    decide +kernel
  have ending : d.text.lineEnding = Text.longEnding := by
    rw [text]
    decide +kernel
  have head : Heads "a" "[a]" := headerName?_eq_some_iff.1 (by decide +kernel)
  have nested : Gives "y" "2" "\ty = 2" := settingOf?_eq_some_iff.1 (by decide +kernel)
  have sets : Sets "x" "x = 1" := keyName?_eq_some_iff.1 (by decide +kernel)
  have other : ¬GivesKey "y" "x = 1" := by
    rw [givesKey_iff]
    decide +kernel
  have inside : ∀ l ∈ (["x = 1", "\ty = 2"] : List Text), ∀ other, ¬Heads other l := by
    simp only [← isHeader_eq_false_iff]
    decide +kernel
  have outer : FirstIn "a" (Sets "x") [("[a]" : Text)] "x = 1" :=
    .behind (List.forall_mem_nil _) head (List.forall_mem_nil _) (inside _ (by simp)) sets
  have inner : FirstIn "a" (GivesKey "y") (["[a]", "x = 1"] : List Text) "\ty = 2" :=
    .behind (List.forall_mem_nil _) head (by simpa using ⟨inside _ (by simp), other⟩)
      (inside _ (by simp)) ⟨_, nested⟩
  refine ⟨d, read, ?_, ?_, ?_, ?_⟩
  · rw [reads.sections, lines]
    decide +kernel
  · exact (reads.get _ _ _).2 ⟨_, _, _, lines, inner, nested⟩
  · refine (reads.found "a" "x" ?_).1 ⟨_, _, _, lines, outer⟩
    rw [lines]
    decide +kernel
  · rw [reads.replaces _ _ _ _ _ lines outer, ending]
    rfl

end ProfilePicker.Ini
