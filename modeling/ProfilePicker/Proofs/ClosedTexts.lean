import ProfilePicker.Proofs.ClosedEdits
import ProfilePicker.Proofs.ClosedReading
import ProfilePicker.Proofs.EvenBreaks

/-!
# Texts of closed lines, edited and read

A text of closed lines is read without a problem and says what its lines say. An edit with a
plain name and a plain key leaves it one as long as the value is closed. So the text can be
edited again and again, and every edit is described by what it does to the lines.
-/
namespace ProfilePicker.Ini

open Text (OneLine IsEnding IsLine shortEnding longEnding)

/-- A text whose lines are closed, each by the ending that an edit of the text uses. -/
structure ClosedText (s : Text) : Prop where
  /-- The text is the one of its lines. -/
  joined : s = Text.joinLines s.lineEnding s.lines
  /-- All lines are closed. -/
  closed : ∀ line ∈ s.lines, ClosedLine s.lineEnding line

/-- Lines that one of the endings closes make up a text with these lines, whose edits use this
ending, unless there is no line. -/
theorem joinLines_joined {ending : Text} (known : IsEnding ending) {ls : List Text}
    (oneLine : ∀ line ∈ ls, OneLine line) :
    (Text.joinLines ending ls).lines = ls ∧
      (ls ≠ [] → (Text.joinLines ending ls).lineEnding = ending) := by
  have isLine : ∀ line ∈ ls, IsLine ending line := fun line member => (oneLine line member).isLine _
  exact ⟨Text.lines_joinLines known isLine, Text.lineEnding_joinLines known isLine⟩

/-- A text of lines that one of the endings closes is the one of its lines. -/
theorem joined_joinLines {ending : Text} (known : IsEnding ending) {ls : List Text}
    (oneLine : ∀ line ∈ ls, OneLine line) :
    Text.joinLines ending ls =
      Text.joinLines (Text.joinLines ending ls).lineEnding (Text.joinLines ending ls).lines := by
  obtain ⟨same, ended⟩ := joinLines_joined known oneLine
  by_cases nothing : ls = []
  · subst nothing
    rfl
  · rw [same, ended nothing]

/-- An edit of lines that an ending closes keeps the ending. -/
theorem setLine_joinLines {ending : Text} (known : IsEnding ending) {ls : List Text}
    (isLine : ∀ line ∈ ls, IsLine ending line) (someLine : ls ≠ []) (name key value : Text) :
    setLine (Text.joinLines ending ls) name key value =
      Text.joinLines ending (setInLines name key value ls) := by
  rw [setLine, Text.lineEnding_joinLines known isLine someLine, Text.lines_joinLines known isLine]

/-- A plain text is the one of its lines, which are plain. -/
theorem plainText_iff {s : Text} : PlainText s ↔
    s = Text.joinLines s.lineEnding s.lines ∧ ∀ line ∈ s.lines, PlainLine line := by
  constructor
  · rintro ⟨ending, ls, known, plain, rfl⟩
    have oneLine : ∀ line ∈ ls, OneLine line :=
      fun line member => ((plain line member).closed ending).oneLine
    exact ⟨joined_joinLines known oneLine, by rwa [(joinLines_joined known oneLine).1]⟩
  · rintro ⟨joined, plain⟩
    exact ⟨s.lineEnding, s.lines, Text.isEnding_lineEnding s, plain, joined⟩

/-- The lines of a plain text are plain. -/
theorem PlainText.plainLine {s : Text} (plain : PlainText s) {line : Text}
    (member : line ∈ s.lines) : PlainLine line :=
  (plainText_iff.1 plain).2 line member

/-- Plain texts are closed. -/
theorem PlainText.closed {s : Text} (plain : PlainText s) : ClosedText s where
  joined := (plainText_iff.1 plain).1
  closed _ member := (plain.plainLine member).closed s.lineEnding

/-- The empty text is plain. -/
theorem plainText_nil : PlainText [] := plainText_iff.2 ⟨rfl, by simp [Text.lines]⟩

namespace ClosedText

variable {s : Text} (closedText : ClosedText s)

include closedText in
/-- A text of closed lines says what its lines say. -/
theorem items_eq : items s = .ok (itemsOf s.lines) := by
  conv => lhs; rw [closedText.joined]
  exact items_joinLines (Text.isEnding_lineEnding s) closedText.closed

include closedText in
/-- A text of closed lines makes up a document. -/
theorem parse_eq : Document.parse s = .ok ⟨s, .ofItems (itemsOf s.lines)⟩ :=
  Document.parse_of_items closedText.items_eq

variable {name key value : Text} (plainName : PlainName name) (plainKey : PlainKey key)

include closedText plainName plainKey in
/-- The lines of an edited text are closed when the value is. -/
theorem closedLine_setInLines (oneLine : OneLine value)
    (closed : s.lineEnding = shortEnding → leavesOpen value = false) :
    ∀ line ∈ setInLines name key value s.lines, ClosedLine s.lineEnding line := by
  intro line member
  rcases mem_setInLines member with rfl | old | rfl | rfl
  · exact closedLine_entryLine plainKey oneLine closed
  · exact closedText.closed line old
  · exact .blank (by simp)
  · exact .header plainName

include closedText plainName plainKey in
/-- An edited text has the edited lines and the same ending. -/
theorem setLine_lines (oneLine : OneLine value)
    (closed : s.lineEnding = shortEnding → leavesOpen value = false) :
    (setLine s name key value).lines = setInLines name key value s.lines ∧
      (setLine s name key value).lineEnding = s.lineEnding := by
  have lines := closedText.closedLine_setInLines plainName plainKey oneLine closed
  obtain ⟨same, ended⟩ := joinLines_joined (Text.isEnding_lineEnding s)
    fun line member => (lines line member).oneLine
  exact ⟨same, ended (setInLines_ne_nil name key value s.lines)⟩

include closedText plainName plainKey in
/-- An edited text is closed when the value is. -/
theorem setLine (oneLine : OneLine value)
    (closed : s.lineEnding = shortEnding → leavesOpen value = false) :
    ClosedText (setLine s name key value) := by
  obtain ⟨lines, ended⟩ := closedText.setLine_lines plainName plainKey oneLine closed
  have every := closedText.closedLine_setInLines plainName plainKey oneLine closed
  refine ⟨?_, ?_⟩
  · rw [lines, ended]
    rfl
  · rw [lines, ended]
    exact every

include plainKey in
/-- The items of the edited lines. -/
theorem itemsOf_setInLines (name value : Text) (ls : List Text) :
    itemsOf (setInLines name key value ls) =
      itemsOf (seam name key ls).1 ++ .entry key value.trim :: itemsOf (seam name key ls).2 := by
  rw [setInLines_eq, itemsOf_append, itemsOf_cons, itemOf?_entryLine plainKey]
  rfl

include closedText plainName plainKey in
/-- An edit leaves the look-ups of all other pairs alone. -/
theorem valueIn_other (value : Text) {otherName otherKey : Text}
    (other : ¬ (otherName = name ∧ otherKey = key)) :
    valueIn otherName otherKey (itemsOf (setInLines name key value s.lines)) =
      valueIn otherName otherKey (itemsOf s.lines) := by
  rw [itemsOf_setInLines plainKey]
  exact (seam_spec name key s.lines).valueIn_other plainName closedText.closed value.trim other

include closedText plainName plainKey in
/-- An edit gives its own pair the new value, if no indented line gets in its way. -/
theorem valueIn_self (value : Text) (noIndented : NoIndented key (firstBlock name s.lines)) :
    valueIn name key (itemsOf (setInLines name key value s.lines)) = some value.trim := by
  have parts := seam_spec name key s.lines
  have unset := parts.valueIn_eq_none plainName closedText.closed noIndented
  rw [itemsOf_setInLines plainKey, valueIn_insert, if_pos ⟨parts.endsIn plainName, rfl⟩, unset]
  rfl

include closedText plainName plainKey in
/-- An edit adds the header of its section unless there is one. -/
theorem headersIn_setInLines (value : Text) :
    headersIn (itemsOf (setInLines name key value s.lines)) =
      if name ∈ headersIn (itemsOf s.lines) then headersIn (itemsOf s.lines)
      else headersIn (itemsOf s.lines) ++ [name] := by
  rw [itemsOf_setInLines plainKey]
  exact (seam_spec name key s.lines).headersIn plainName closedText.closed value.trim

end ClosedText

/-- An edit of plain lines with a plain name, key and value leaves them plain. -/
theorem plainLine_setInLines {name key value : Text} {ls : List Text}
    (plain : ∀ line ∈ ls, PlainLine line) (plainName : PlainName name) (plainKey : PlainKey key)
    (plainValue : PlainValue value) : ∀ line ∈ setInLines name key value ls, PlainLine line := by
  intro line member
  rcases mem_setInLines member with rfl | old | rfl | rfl
  · exact plainLine_entryLine plainKey plainValue
  · exact plain line old
  · exact .blank (by simp)
  · exact .header plainName

/-- An edit of a plain text with a plain name, key and value leaves it plain. -/
theorem PlainText.setLine {s name key value : Text} (plain : PlainText s)
    (plainName : PlainName name) (plainKey : PlainKey key) (plainValue : PlainValue value) :
    PlainText (setLine s name key value) := by
  have closed : s.lineEnding = shortEnding → leavesOpen value = false :=
    fun _ => leavesOpen_eq_false plainValue.noBackslash
  obtain ⟨lines, ended⟩ :=
    plain.closed.setLine_lines plainName plainKey plainValue.oneLine closed
  rw [plainText_iff]
  refine ⟨(plain.closed.setLine plainName plainKey plainValue.oneLine closed).joined, ?_⟩
  rw [lines]
  exact plainLine_setInLines (fun line member => plain.plainLine member) plainName plainKey
    plainValue

end ProfilePicker.Ini
