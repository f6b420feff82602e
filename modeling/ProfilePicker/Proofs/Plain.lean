import ProfilePicker.Ini.Document
import ProfilePicker.Proofs.Lines
import ProfilePicker.Proofs.Trimming

/-!
# Plain settings texts

A plain text is written the way people write settings files by hand: every line is blank, a
comment in the first column, a header, or a setting, and all lines are closed by the same
ending. Names, keys and values that are plain can be written into such a text as they are.

The reader takes more lines on their own than the plain ones. A line is closed when it is of
one of the four kinds and its value, whatever else is in it, does not run on into the next
line: a backslash may be its last character as long as another backslash protects it, and
before a long ending in any case.
-/
namespace ProfilePicker.Ini

open Text (OneLine Trimmed IsEnding shortEnding)

/-- A name that a header line can hold as it is. -/
structure PlainName (name : Text) : Prop where
  /-- There is a name. -/
  nonempty : name ≠ []
  /-- No blank stands at either end. -/
  trimmed : Trimmed name
  /-- It stands on one line. -/
  oneLine : OneLine name
  /-- Nothing in it closes the header. -/
  noBracket : ']' ∉ name
  /-- Nothing in it protects the next character. -/
  noBackslash : '\\' ∉ name

/-- A key that a line can set as it is. -/
structure PlainKey (key : Text) : Prop where
  /-- There is a key. -/
  nonempty : key ≠ []
  /-- No blank stands at either end. -/
  trimmed : Trimmed key
  /-- It stands on one line. -/
  oneLine : OneLine key
  /-- Nothing in it separates a key from its value. -/
  noDelimiter : ∀ c ∈ key, isDelimiter c = false
  /-- Nothing in it protects the next character. -/
  noBackslash : '\\' ∉ key
  /-- It does not begin like a header or a comment. -/
  start : ∀ c, key.head? = some c → c ≠ '[' ∧ startsComment c = false

/-- A value that a line can give a key as it is. -/
structure PlainValue (value : Text) : Prop where
  /-- No blank stands at either end. -/
  trimmed : Trimmed value
  /-- It stands on one line. -/
  oneLine : OneLine value
  /-- The next line does not continue it. -/
  noBackslash : value.getLast? ≠ some '\\'

instance (name : Text) : Decidable (PlainName name) :=
  decidable_of_iff
    (name ≠ [] ∧ Trimmed name ∧ OneLine name ∧ ']' ∉ name ∧ '\\' ∉ name)
    ⟨fun ⟨nonempty, trimmed, oneLine, noBracket, noBackslash⟩ =>
      ⟨nonempty, trimmed, oneLine, noBracket, noBackslash⟩,
    fun plain =>
      ⟨plain.nonempty, plain.trimmed, plain.oneLine, plain.noBracket, plain.noBackslash⟩⟩

instance (key : Text) : Decidable (PlainKey key) :=
  decidable_of_iff
    (key ≠ [] ∧ Trimmed key ∧ OneLine key ∧ (∀ c ∈ key, isDelimiter c = false) ∧ '\\' ∉ key ∧
      ∀ c ∈ key.head?.toList, c ≠ '[' ∧ startsComment c = false)
    ⟨fun ⟨nonempty, trimmed, oneLine, noDelimiter, noBackslash, start⟩ =>
      ⟨nonempty, trimmed, oneLine, noDelimiter, noBackslash, by simpa using start⟩,
    fun plain =>
      ⟨plain.nonempty, plain.trimmed, plain.oneLine, plain.noDelimiter, plain.noBackslash,
        by simpa using plain.start⟩⟩

instance (value : Text) : Decidable (PlainValue value) :=
  decidable_of_iff (Trimmed value ∧ OneLine value ∧ value.getLast? ≠ some '\\')
    ⟨fun ⟨trimmed, oneLine, noBackslash⟩ => ⟨trimmed, oneLine, noBackslash⟩,
    fun plain => ⟨plain.trimmed, plain.oneLine, plain.noBackslash⟩⟩

/-- Whether the last character of a text is a backslash that no other one protects. -/
def leavesOpen : Text → Bool
  | [] => false
  | [c] => c = '\\'
  | c :: d :: rest => if c = '\\' then leavesOpen rest else leavesOpen (d :: rest)

/-- A line that is a setting: a key, perhaps indented, an equals sign and what follows it. -/
def settingLine (indent key pad value : Text) : Text := indent ++ key ++ pad ++ '=' :: value

/-- A line of a plain text. -/
inductive PlainLine : Text → Prop
  /-- Spaces and tabs. -/
  | blank {line : Text} (indents : ∀ c ∈ line, isIndent c = true) : PlainLine line
  /-- A comment in the first column. -/
  | comment {mark : Char} {rest : Text} (marks : startsComment mark = true)
      (oneLine : OneLine rest) : PlainLine (mark :: rest)
  /-- A header. -/
  | header {name : Text} (plain : PlainName name) : PlainLine (headerLine name)
  /-- A setting, perhaps indented, with spaces and tabs around the equals sign. -/
  | setting {indent key pad value : Text} (indents : ∀ c ∈ indent, isIndent c = true)
      (plain : PlainKey key) (pads : ∀ c ∈ pad, isIndent c = true) (oneLine : OneLine value)
      (noBackslash : value.getLast? ≠ some '\\') : PlainLine (settingLine indent key pad value)

/-- A line of which the reader takes neither more nor less, whatever lines follow it. -/
inductive ClosedLine (ending : Text) : Text → Prop
  /-- Spaces and tabs. -/
  | blank {line : Text} (indents : ∀ c ∈ line, isIndent c = true) : ClosedLine ending line
  /-- A comment in the first column. -/
  | comment {mark : Char} {rest : Text} (marks : startsComment mark = true)
      (oneLine : OneLine rest) : ClosedLine ending (mark :: rest)
  /-- A header. -/
  | header {name : Text} (plain : PlainName name) : ClosedLine ending (headerLine name)
  /-- A setting whose value the next line does not continue. -/
  | setting {indent key pad value : Text} (indents : ∀ c ∈ indent, isIndent c = true)
      (plain : PlainKey key) (pads : ∀ c ∈ pad, isIndent c = true) (oneLine : OneLine value)
      (closed : ending = shortEnding → leavesOpen value = false) :
      ClosedLine ending (settingLine indent key pad value)

/-- A plain text: plain lines, all closed by the same ending. -/
def PlainText (s : Text) : Prop :=
  ∃ ending ls, IsEnding ending ∧ (∀ line ∈ ls, PlainLine line) ∧
    s = Text.joinLines ending ls

/-! ## Characters -/

/-- A character that indents a line is blank. -/
theorem isBlank_of_isIndent {c : Char} (indents : isIndent c = true) : isBlank c = true := by
  have known : c = ' ' ∨ c = '\t' := by simpa [isIndent] using indents
  rcases known with rfl | rfl <;> decide

/-- A character that indents a line does not end it. -/
theorem isLineEnd_of_isIndent {c : Char} (indents : isIndent c = true) :
    isLineEnd c = false := by
  have known : c = ' ' ∨ c = '\t' := by simpa [isIndent] using indents
  rcases known with rfl | rfl <;> decide

/-- Characters that indent a line make up a blank text. -/
theorem isBlank_of_indents {s : Text} (indents : ∀ c ∈ s, isIndent c = true) :
    s.isBlank = true :=
  Text.isBlank_iff.2 fun c member => isBlank_of_isIndent (indents c member)

/-- Characters that indent a line stand on one line. -/
theorem oneLine_of_indents {s : Text} (indents : ∀ c ∈ s, isIndent c = true) : OneLine s := by
  intro c member
  have := isLineEnd_of_isIndent (indents c member)
  simpa [isLineEnd] using this

/-- A text on one line has no character that ends a line. -/
theorem oneLine_iff {s : Text} : OneLine s ↔ ∀ c ∈ s, isLineEnd c = false := by
  simp [OneLine, isLineEnd]

/-- A visible first character is none of those that the reader passes over. -/
theorem PlainKey.visible {key : Text} (plain : PlainKey key) {c : Char}
    (first : key.head? = some c) : isBlank c = false :=
  (Text.trimmed_iff.1 plain.trimmed).1 c first

/-! ## Backslashes at the end -/

/-- Only a text that ends with a backslash leaves its line open. -/
theorem getLast?_of_leavesOpen {s : Text} (opened : leavesOpen s = true) :
    s.getLast? = some '\\' := by
  fun_induction leavesOpen s with
  | case1 => simp at opened
  | case2 c => simpa using opened
  | case3 d rest ih =>
    have last := ih opened
    cases rest with
    | nil => simp at last
    | cons e rest => simpa [List.getLast?_cons_cons] using last
  | case4 c d rest _ ih => simpa [List.getLast?_cons_cons] using ih opened

/-- A text that does not end with a backslash leaves no line open. -/
theorem leavesOpen_eq_false {s : Text} (noBackslash : s.getLast? ≠ some '\\') :
    leavesOpen s = false := by
  by_contra opened
  exact noBackslash (getLast?_of_leavesOpen (by simpa using opened))

/-- What stands in front of a text, without backslashes, leaves it as open as it is. -/
theorem leavesOpen_append {front : Text} (noBackslash : '\\' ∉ front) {s : Text}
    (someText : s ≠ []) : leavesOpen (front ++ s) = leavesOpen s := by
  induction front with
  | nil => rfl
  | cons c front ih =>
    have differs : c ≠ '\\' := fun same => noBackslash (by simp [same])
    have later := ih fun member => noBackslash (List.mem_cons_of_mem c member)
    obtain ⟨d, rest, more⟩ : ∃ d rest, front ++ s = d :: rest :=
      List.exists_cons_of_ne_nil (by simp [someText])
    rw [List.cons_append, more, leavesOpen, if_neg differs, ← more]
    exact later

/-- Plain lines are closed, whichever ending closes them. -/
theorem PlainLine.closed {line : Text} (plain : PlainLine line) (ending : Text) :
    ClosedLine ending line := by
  cases plain with
  | blank indents => exact .blank indents
  | comment marks oneLine => exact .comment marks oneLine
  | header plain => exact .header plain
  | setting indents plain pads oneLine noBackslash =>
    exact .setting indents plain pads oneLine fun _ => leavesOpen_eq_false noBackslash

/-- A closed line stands on one line. -/
theorem ClosedLine.oneLine {ending line : Text} (closed : ClosedLine ending line) :
    OneLine line := by
  cases closed with
  | blank indents => exact oneLine_of_indents indents
  | @comment mark rest marks oneLine =>
    have known : mark = ';' ∨ mark = '#' := by simpa [startsComment] using marks
    intro c member
    rcases List.mem_cons.1 member with rfl | member
    · rcases known with rfl | rfl <;> decide
    · exact oneLine c member
  | @header name plain =>
    rw [headerLine, Text.oneLine_append, Text.oneLine_append]
    exact ⟨⟨by decide, plain.oneLine⟩, by decide⟩
  | @setting indent key pad value indents plain pads oneLine closed =>
    rw [settingLine, Text.oneLine_append, Text.oneLine_append, Text.oneLine_append]
    refine ⟨⟨⟨oneLine_of_indents indents, plain.oneLine⟩, oneLine_of_indents pads⟩, ?_⟩
    intro c member
    rcases List.mem_cons.1 member with rfl | member
    · decide
    · exact oneLine c member

end ProfilePicker.Ini
