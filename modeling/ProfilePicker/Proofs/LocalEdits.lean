import ProfilePicker.Ini.Document
import ProfilePicker.Proofs.EvenBreaks
import ProfilePicker.Proofs.Seam
import ProfilePicker.Proofs.Trimming

/-!
# Edits are local

An edit changes one place of a text, character for character. It replaces one line, puts one line
between two others, or adds a section behind everything else. Which line that is follows from the
headers and the keys alone, and everything before and behind it stays as it is, line ends included.
-/
namespace ProfilePicker.Ini

open Text (ClosedBy EvenBreaks IsEnding IsLine OneLine Trimmed joinLines)

/-! ## What lines say -/

/-- A line that heads a section: the name stands in brackets, perhaps behind blanks. -/
def Heads (name line : Text) : Prop :=
  ∃ indent inside rest, line = indent ++ '[' :: (inside ++ ']' :: rest) ∧
    Text.isBlank indent = true ∧ ']' ∉ inside ∧ Text.trim inside = name

/-- A line that sets a key: it is neither indented nor a comment, and what stands before its first
equals sign is the key, blanks apart. -/
def Sets (key line : Text) : Prop :=
  (∀ c, line.head? = some c → isBlank c = false ∧ c ≠ '#' ∧ c ≠ ';') ∧
    ∃ before value, line = before ++ '=' :: value ∧ '=' ∉ before ∧ Text.trim before = key

/-- The headers that an edit looks for are those lines. -/
theorem headerName?_eq_some_iff {name line : Text} :
    headerName? line = some name ↔ Heads name line := by
  have bracket : isBlank '[' = false := by decide
  have closing : isBlank ']' = false := by decide
  constructor
  · intro heads
    obtain ⟨front, start, blank⟩ := Text.exists_trimStart line
    obtain ⟨back, stop⟩ := Text.exists_trimEnd (Text.trimStart line)
    rw [headerName?] at heads
    split at heads
    · rename_i rest trimmed
      obtain ⟨⟨inside, behind⟩, split, named⟩ := Option.map_eq_some_iff.1 heads
      obtain ⟨within, rfl⟩ := Text.splitAt?_eq_some_iff.1 split
      refine ⟨front, inside, behind ++ back, ?_, blank, within, named⟩
      rw [← Text.trim, trimmed] at stop
      rw [start, stop]
      simp
    · cases heads
  · rintro ⟨indent, inside, rest, rfl, blank, within, named⟩
    have split : Text.splitAt? ']' (inside ++ ']' :: Text.trimEnd rest) =
        some (inside, Text.trimEnd rest) := Text.splitAt?_eq_some_iff.2 ⟨within, rfl⟩
    rw [headerName?, Text.trim_visible blank bracket, Text.trimEnd_append_visible closing]
    simp [split, named]

/-- The keys that an edit looks for are those that lines set. -/
theorem keyName?_eq_some_iff {key line : Text} :
    keyName? line = some key ↔ Sets key line := by
  have equals : isBlank '=' = false := by decide
  have lookup : (∀ c, line.head? = some c → isBlank c = false ∧ c ≠ '#' ∧ c ≠ ';') →
      keyName? line = (Text.splitAt? '=' (Text.trimEnd line)).map fun parts => parts.1.trim := by
    intro clean
    cases line with
    | nil => rfl
    | cons c rest =>
      obtain ⟨visible, noHash, noSemicolon⟩ := clean c rfl
      rw [← Text.trim_of_visible fun d first => (clean d first).1]
      simp [keyName?, visible, noHash, noSemicolon]
  constructor
  · intro sets
    have clean : ∀ c, line.head? = some c → isBlank c = false ∧ c ≠ '#' ∧ c ≠ ';' := by
      intro c first
      obtain ⟨rest, rfl⟩ := List.head?_eq_some_iff.1 first
      rw [keyName?] at sets
      split at sets
      · cases sets
      · rename_i unmarked
        simpa [and_assoc] using unmarked
    rw [lookup clean] at sets
    obtain ⟨⟨before, value⟩, split, named⟩ := Option.map_eq_some_iff.1 sets
    obtain ⟨first, whole⟩ := Text.splitAt?_eq_some_iff.1 split
    obtain ⟨back, stop⟩ := Text.exists_trimEnd line
    refine ⟨clean, before, value ++ back, ?_, first, named⟩
    rw [whole] at stop
    rw [stop]
    simp
  · rintro ⟨clean, before, value, rfl, first, named⟩
    have split : Text.splitAt? '=' (before ++ '=' :: Text.trimEnd value) =
        some (before, Text.trimEnd value) := Text.splitAt?_eq_some_iff.2 ⟨first, rfl⟩
    rw [lookup clean, Text.trimEnd_append_visible equals, split, ← named]
    rfl

/-- The headers that end a block are those of any section. -/
theorem isHeader_eq_true_iff {line : Text} : isHeader line = true ↔ ∃ name, Heads name line := by
  simp only [isHeader, ← headerName?_eq_some_iff, Option.isSome_iff_exists]

/-- No other line ends it. -/
theorem isHeader_eq_false_iff {line : Text} : isHeader line = false ↔ ∀ name, ¬Heads name line := by
  rw [← Bool.not_eq_true, isHeader_eq_true_iff, not_exists]

/-! ## Names and keys that stand on a line -/

/-- A name that a header can hold. -/
structure HeaderName (name : Text) : Prop where
  /-- No blank stands at either end. -/
  trimmed : Trimmed name
  /-- It stands on one line. -/
  oneLine : OneLine name
  /-- Nothing in it closes the header. -/
  noBracket : ']' ∉ name

/-- A key that a line can set. -/
structure EntryKey (key : Text) : Prop where
  /-- There is a key. -/
  nonempty : key ≠ []
  /-- No blank stands at either end. -/
  trimmed : Trimmed key
  /-- It stands on one line. -/
  oneLine : OneLine key
  /-- Nothing in it separates it from its value. -/
  noEquals : '=' ∉ key
  /-- It begins neither a header nor a comment. -/
  start : ∀ c, key.head? = some c → c ≠ '[' ∧ c ≠ '#' ∧ c ≠ ';'

instance (name : Text) : Decidable (HeaderName name) :=
  decidable_of_iff (Trimmed name ∧ OneLine name ∧ ']' ∉ name)
    ⟨fun ⟨trimmed, oneLine, noBracket⟩ => ⟨trimmed, oneLine, noBracket⟩,
    fun header => ⟨header.trimmed, header.oneLine, header.noBracket⟩⟩

instance (key : Text) : Decidable (EntryKey key) :=
  decidable_of_iff
    (key ≠ [] ∧ Trimmed key ∧ OneLine key ∧ '=' ∉ key ∧
      ∀ c ∈ key.head?.toList, c ≠ '[' ∧ c ≠ '#' ∧ c ≠ ';')
    ⟨fun ⟨nonempty, trimmed, oneLine, noEquals, start⟩ =>
      ⟨nonempty, trimmed, oneLine, noEquals, by simpa using start⟩,
    fun entry => ⟨entry.nonempty, entry.trimmed, entry.oneLine, entry.noEquals,
      by simpa using entry.start⟩⟩

section Written

variable {name key : Text}

/-- The header that an edit adds heads its section. -/
theorem HeaderName.heads (header : HeaderName name) : Heads name (headerLine name) :=
  ⟨[], name, [], rfl, rfl, header.noBracket, header.trimmed⟩

/-- The line that an edit writes begins with the key. -/
theorem EntryKey.exists_cons (entry : EntryKey key) (value : Text) :
    ∃ c rest, entryLine key value = c :: rest ∧ isBlank c = false ∧
      c ≠ '[' ∧ c ≠ '#' ∧ c ≠ ';' := by
  obtain ⟨c, rest, rfl⟩ := List.exists_cons_of_ne_nil entry.nonempty
  exact ⟨c, rest ++ (" = " ++ value), by simp [entryLine],
    (Text.trimmed_iff.1 entry.trimmed).1 c rfl, entry.start c rfl⟩

/-- It sets the key. -/
theorem EntryKey.sets (entry : EntryKey key) (value : Text) : Sets key (entryLine key value) := by
  constructor
  · obtain ⟨c, rest, line, visible, -, marks⟩ := entry.exists_cons value
    rw [line]
    rintro d ⟨⟩
    exact ⟨visible, marks⟩
  · refine ⟨key ++ [' '], ' ' :: value, by simp [entryLine], ?_, ?_⟩
    · simpa using entry.noEquals
    · exact entry.trimmed.trim_between (show Text.isBlank [] = true from rfl) (by decide)

/-- It heads no section. -/
theorem EntryKey.not_heads (entry : EntryKey key) (value other : Text) :
    ¬Heads other (entryLine key value) := by
  obtain ⟨c, rest, line, visible, noBracket, -⟩ := entry.exists_cons value
  rw [line]
  rintro ⟨indent, inside, behind, whole, blank, -⟩
  cases indent with
  | nil => exact noBracket (List.cons.inj whole).1
  | cons d indent =>
    obtain rfl := (List.cons.inj whole).1
    rw [Text.isBlank_iff.1 blank c List.mem_cons_self] at visible
    cases visible

/-- It stands on one line. -/
theorem EntryKey.oneLine_entryLine {value : Text} (entry : EntryKey key)
    (oneLine : OneLine value) : OneLine (entryLine key value) :=
  Text.oneLine_append.2 ⟨Text.oneLine_append.2 ⟨entry.oneLine, by decide⟩, oneLine⟩

end Written

/-! ## One change -/

/-- The changes that an edit can make to a text whose lines are closed by one ending. -/
inductive LocalEdit (name key value ending : Text) : Text → Text → Prop
  /-- Behind the first header of the section and before the next header, the first line that sets
  the key is replaced. -/
  | replaced {front body back : List Text} {head old : Text}
      (lines : ∀ line ∈ front ++ head :: (body ++ old :: back), IsLine ending line)
      (first : ∀ line ∈ front, ¬Heads name line) (heads : Heads name head)
      (inside : ∀ line ∈ body, (∀ other, ¬Heads other line) ∧ ¬Sets key line)
      (here : ∀ other, ¬Heads other old) (sets : Sets key old) :
      LocalEdit name key value ending
        (joinLines ending (front ++ head :: body) ++ (old ++ ending ++ joinLines ending back))
        (joinLines ending (front ++ head :: body) ++
          (entryLine key value ++ ending ++ joinLines ending back))
  /-- No line there sets the key: a new one comes behind the last line there that is not blank. -/
  | inserted {front body gap back : List Text} {head : Text}
      (lines : ∀ line ∈ front ++ head :: (body ++ gap ++ back), IsLine ending line)
      (first : ∀ line ∈ front, ¬Heads name line) (heads : Heads name head)
      (inside : ∀ line ∈ body ++ gap, (∀ other, ¬Heads other line) ∧ ¬Sets key line)
      (blank : ∀ line ∈ gap, Text.isBlank line = true)
      (visible : ∀ line, body.getLast? = some line → Text.isBlank line = false)
      (ends : ∀ line, back.head? = some line → ∃ other, Heads other line) :
      LocalEdit name key value ending
        (joinLines ending (front ++ head :: body) ++ joinLines ending (gap ++ back))
        (joinLines ending (front ++ head :: body) ++
          (entryLine key value ++ ending ++ joinLines ending (gap ++ back)))
  /-- No line heads the section: a header and the new line come behind everything, and an empty line
  before them exactly when there is a last line that is not blank. -/
  | appended {ls : List Text} {gap : Text} (lines : ∀ line ∈ ls, IsLine ending line)
      (absent : ∀ line ∈ ls, ¬Heads name line)
      (spaced : ∀ line, ls.getLast? = some line → Text.isBlank line = false → gap = ending)
      (close : (∀ line, ls.getLast? = some line → Text.isBlank line = true) → gap = []) :
      LocalEdit name key value ending (joinLines ending ls)
        (joinLines ending ls ++
          (gap ++ (headerLine name ++ ending ++ (entryLine key value ++ ending))))

section Edits

variable {name key value ending : Text} {ls before after : List Text}

/-- A line that is written between the two sides of a seam is one such change. -/
theorem Seam.localEdit (parts : Seam name key ls before after)
    (lines : ∀ line ∈ ls, IsLine ending line) (value : Text) :
    LocalEdit name key value ending (joinLines ending ls)
      (joinLines ending before ++ (entryLine key value ++ ending ++ joinLines ending after)) := by
  cases parts with
  | @replaced front body _ head old first heads others inside sets =>
    have made := @LocalEdit.replaced name key value ending front body after head old lines
      (fun line member => (first line member) ∘ headerName?_eq_some_iff.2)
      (headerName?_eq_some_iff.1 heads)
      (fun line member => ⟨isHeader_eq_false_iff.1 (others line member).1,
        (others line member).2 ∘ keyName?_eq_some_iff.2⟩)
      (isHeader_eq_false_iff.1 inside) (keyName?_eq_some_iff.1 sets)
    simpa using made
  | @inserted front body gap back head first heads others blank visible ends =>
    have made := @LocalEdit.inserted name key value ending front body gap back head lines
      (fun line member => (first line member) ∘ headerName?_eq_some_iff.2)
      (headerName?_eq_some_iff.1 heads)
      (fun line member => ⟨isHeader_eq_false_iff.1 (others line member).1,
        (others line member).2 ∘ keyName?_eq_some_iff.2⟩) blank visible
      (fun line next => (isHeader_eq_true_iff.1 (ends line next)))
    simpa using made
  | appended absent =>
    have spaced : ∀ line, ls.getLast? = some line → Text.isBlank line = false →
        joinLines ending (separator ls) = ending := fun line last visible => by
      simp [separator, last, visible]
    have close : (∀ line, ls.getLast? = some line → Text.isBlank line = true) →
        joinLines ending (separator ls) = [] := by
      intro blank
      rw [separator]
      split
      · rename_i line last
        rw [if_pos (blank line last), Text.joinLines_nil]
      · rfl
    have made := @LocalEdit.appended name key value ending ls _ lines
      (fun line member => (absent line member) ∘ headerName?_eq_some_iff.2) spaced close
    simpa using made

/-- The lines of an edited text are lines that the ending of the text closes. -/
theorem isLine_setInLines (lines : ∀ line ∈ ls, IsLine ending line) (header : HeaderName name)
    (entry : EntryKey key) (oneLine : OneLine value) :
    ∀ line ∈ setInLines name key value ls, IsLine ending line := by
  intro line member
  rcases mem_setInLines member with rfl | old | rfl | rfl
  · exact (entry.oneLine_entryLine oneLine).isLine ending
  · exact lines line old
  · exact OneLine.isLine (by decide) ending
  · exact (oneLine_headerLine header.oneLine).isLine ending

end Edits

/-- What an edit makes of a text whose line breaks are all of one kind. -/
structure EditsOnePlace (name key value t t' : Text) : Prop where
  /-- One change is made, with the line ending of the text. -/
  change : LocalEdit name key value t.lineEnding t t'
  /-- The line breaks are still all of one kind. -/
  even : EvenBreaks t'
  /-- They are of the same kind as before. -/
  ending : t'.lineEnding = t.lineEnding
  /-- The new line sets the key, and it heads no section. -/
  sets : Sets key (entryLine key value) ∧ ∀ other, ¬Heads other (entryLine key value)
  /-- A header that is added heads the section. -/
  heads : Heads name (headerLine name)

/-- **An edit changes one place of a text**, whatever the text says and whether it can be read or
not: it replaces a line, puts one between two others, or adds a section at the end. -/
theorem set_edits_one_place (d : Document) {name key value : Text} (even : EvenBreaks d.text)
    (header : HeaderName name) (entry : EntryKey key) (oneLine : OneLine value) :
    EditsOnePlace name key value d.text (d.set name key value).text := by
  have known := Text.isEnding_lineEnding d.text
  obtain ⟨joined, lines⟩ := even.closedBy.lines known
  have edited : (d.set name key value).text =
      joinLines d.text.lineEnding (setInLines name key value d.text.lines) := rfl
  have closes : ClosedBy d.text.lineEnding (d.set name key value).text := by
    rw [edited]
    exact Text.closedBy_joinLines known (isLine_setInLines lines header entry oneLine)
  have filled : (d.set name key value).text ≠ [] := by
    rw [edited, setInLines_eq]
    simp [entryLine]
  refine ⟨?_, ?_, closes.lineEnding known filled, ⟨entry.sets value, entry.not_heads value⟩,
    header.heads⟩
  · have change := (seam_spec name key d.text.lines).localEdit lines value
    rw [joined] at change
    have written : (d.set name key value).text = _ := setLine_eq d.text name key value
    rw [written]
    exact change
  · rcases known with short | long
    · exact .inl (short ▸ closes)
    · exact .inr (long ▸ closes)

/-- One line is put into a text that cannot be read, and its long line ends stay. -/
theorem edits_one_place_long :
    EvenBreaks "[b\r\n[a]\r\nx = 1\r\n\r\n[c]\r\n" ∧ HeaderName "a" ∧ EntryKey "region" ∧
      OneLine "eu-west-1" ∧
      EditsOnePlace "a" "region" "eu-west-1" "[b\r\n[a]\r\nx = 1\r\n\r\n[c]\r\n"
        "[b\r\n[a]\r\nx = 1\r\nregion = eu-west-1\r\n\r\n[c]\r\n" := by
  have even : EvenBreaks "[b\r\n[a]\r\nx = 1\r\n\r\n[c]\r\n" := by
    have lines : ∀ line ∈ (["[b", "[a]", "x = 1", [], "[c]"] : List Text), OneLine line := by
      decide
    exact .inr (Text.closedBy_joinLines (.inr rfl) fun line member =>
      (lines line member).isLine _)
  have header : HeaderName "a" := by decide
  have entry : EntryKey "region" := by decide
  have oneLine : OneLine "eu-west-1" := by decide
  have edited : setLine "[b\r\n[a]\r\nx = 1\r\n\r\n[c]\r\n" "a" "region" "eu-west-1" =
      "[b\r\n[a]\r\nx = 1\r\nregion = eu-west-1\r\n\r\n[c]\r\n" := by decide +kernel
  refine ⟨even, header, entry, oneLine, ?_⟩
  rw [← edited]
  exact set_edits_one_place ⟨"[b\r\n[a]\r\nx = 1\r\n\r\n[c]\r\n", .empty⟩ even header entry
    oneLine

end ProfilePicker.Ini
