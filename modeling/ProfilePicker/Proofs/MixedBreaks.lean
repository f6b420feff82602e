import ProfilePicker.Proofs.ClosedTexts
import ProfilePicker.Proofs.LocalEdits

/-!
# Texts with mixed line breaks

An edit splits a text into its lines and joins them with one ending, whatever line breaks the text
has. The ending closes all of its lines, unless the text ends with a carriage return that no line
feed follows. So from the first edit on, a text is its lines and their ending, and each further edit
is one of the lines.
-/
namespace ProfilePicker.Text

variable {ending s line : Text}

/-- No line feed stands in a line. -/
theorem noFeed_of_mem_lines (member : line ∈ s.lines) : '\n' ∉ line := by
  fun_induction Text.lines s generalizing line with
  | case1 => cases member
  | case2 rest ih | case3 rest ih =>
    rcases List.mem_cons.1 member with rfl | later
    · exact List.not_mem_nil
    · exact ih later
  | case4 c rest other apart nothing ih =>
    obtain rfl := List.mem_singleton.1 member
    simpa using Ne.symm other
  | case5 c rest other apart first more found ih =>
    rw [found] at ih
    rcases List.mem_cons.1 member with rfl | later
    · have inFirst := ih List.mem_cons_self
      simpa [inFirst] using Ne.symm other
    · exact ih (List.mem_cons_of_mem first later)

/-- Only the empty text has no lines. -/
theorem lines_eq_nil_iff : s.lines = [] ↔ s = [] := by
  refine ⟨fun nothing => ?_, fun empty => empty ▸ rfl⟩
  unfold lines at nothing
  split at nothing
  · rfl
  · cases nothing
  · cases nothing
  · split at nothing <;> cases nothing

/-- A text whose first line is empty begins with a line break. -/
theorem breaks_of_lines {more : List Text} (found : s.lines = [] :: more) :
    (∃ rest, s = '\n' :: rest) ∨ ∃ rest, s = '\r' :: '\n' :: rest := by
  unfold lines at found
  split at found
  · cases found
  · exact .inl ⟨_, rfl⟩
  · exact .inr ⟨_, rfl⟩
  · split at found <;> cases found

/-- Without long endings, no line ends with a carriage return, unless the text does. -/
theorem noReturn_of_mem_lines (short : hasCarriageReturns s = false)
    (noReturn : s.getLast? ≠ some '\r') (member : line ∈ s.lines) : line.getLast? ≠ some '\r' := by
  fun_induction Text.lines s generalizing line with
  | case1 => cases member
  | case2 rest ih =>
    rcases List.mem_cons.1 member with rfl | later
    · simp
    · have filled : rest ≠ [] := by
        rintro rfl
        cases later
      rw [List.getLast?_cons_of_ne_nil filled] at noReturn
      exact ih short noReturn later
  | case3 rest ih => cases short
  | case4 c rest other apart nothing ih =>
    obtain rfl := lines_eq_nil_iff.1 nothing
    obtain rfl := List.mem_singleton.1 member
    exact noReturn
  | case5 c rest other apart first more found ih =>
    have filled : rest ≠ [] := by
      rintro rfl
      cases found
    have later : hasCarriageReturns rest = false := by
      rw [hasCarriageReturns] at short
      · exact short
      · exact fun rest' returned => apart rest' returned
    rw [List.getLast?_cons_of_ne_nil filled] at noReturn
    have others := fun {line} => @ih line later noReturn
    rw [found] at others
    rcases List.mem_cons.1 member with rfl | inMore
    · intro last
      cases first with
      | nil =>
        obtain rfl : c = '\r' := by simpa using last
        rcases breaks_of_lines found with ⟨rest', rfl⟩ | ⟨rest', rfl⟩
        · exact apart rest' rfl rfl
        · cases later
      | cons d first => exact others List.mem_cons_self (by simpa using last)
    · exact others (List.mem_cons_of_mem first inMore)

/-- Unless a text ends with a carriage return, the ending that an edit uses closes its lines. -/
theorem isLine_lines (noReturn : s.getLast? ≠ some '\r') :
    ∀ line ∈ s.lines, IsLine s.lineEnding line := by
  refine fun line member => ⟨noFeed_of_mem_lines member, fun short => ?_⟩
  refine noReturn_of_mem_lines ?_ noReturn member
  by_contra long
  rw [lineEnding_eq, if_pos (by simpa using long)] at short
  exact shortEnding_ne_longEnding short.symm

/-- Joined lines end with a line feed. -/
theorem getLast?_joinLines (known : IsEnding ending) {ls : List Text} (someLine : ls ≠ []) :
    (joinLines ending ls).getLast? = some '\n' := by
  have last : ending.getLast? = some '\n' := by
    rcases known with rfl | rfl <;> rfl
  rw [← List.dropLast_concat_getLast someLine, joinLines_append, joinLines_cons, joinLines_nil,
    List.append_nil, List.getLast?_append, List.getLast?_append, last, Option.some_or,
    Option.some_or]

end ProfilePicker.Text

namespace ProfilePicker.Ini

open Text (IsEnding IsLine OneLine joinLines)

variable {name key value : Text} {ls : List Text}

/-- A second edit goes on with the lines that the first one leaves and with the same ending. -/
theorem setLine_of_setLine {s : Text} (noReturn : s.getLast? ≠ some '\r')
    (header : HeaderName name) (entry : EntryKey key) (oneLine : OneLine value)
    (name' key' value' : Text) :
    setLine (setLine s name key value) name' key' value' =
      joinLines s.lineEnding (setInLines name' key' value' (setInLines name key value s.lines)) :=
  setLine_joinLines (Text.isEnding_lineEnding s)
    (isLine_setInLines (Text.isLine_lines noReturn) header entry oneLine)
    (setInLines_ne_nil name key value s.lines) name' key' value'

end ProfilePicker.Ini
