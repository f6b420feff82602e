import ProfilePicker.Text.Basic

/-!
# Blank characters

A character is blank when Unicode counts it as white space. Trimming removes the blanks at
both ends of a text; a text is blank when nothing else is in it.
-/
namespace ProfilePicker

/-- The white space of Unicode. -/
def blanks : CharClass :=
  [(0x9, 0xd), (0x20, 0x20), (0x85, 0x85), (0xa0, 0xa0), (0x1680, 0x1680), (0x2000, 0x200a),
   (0x2028, 0x2029), (0x202f, 0x202f), (0x205f, 0x205f), (0x3000, 0x3000)]

/-- Whether a character is white space. -/
def isBlank (c : Char) : Bool := blanks.holds c

namespace Text

/-- The text without the blanks it starts with. -/
def trimStart (s : Text) : Text := s.dropWhile isBlank

/-- The text without the blanks it ends with. -/
def trimEnd (s : Text) : Text := (s.reverse.dropWhile isBlank).reverse

/-- The text without the blanks at either end. -/
def trim (s : Text) : Text := s.trimStart.trimEnd

/-- Whether a text holds nothing but blanks. -/
def isBlank (s : Text) : Bool := s.all ProfilePicker.isBlank

/-- Dropping the blanks at the start leaves nothing exactly when nothing but blanks is there. -/
theorem trimStart_eq_nil_iff {s : Text} : s.trimStart = [] ↔ s.isBlank = true := by
  induction s with
  | nil => simp [trimStart, isBlank]
  | cons c s ih =>
    simp only [trimStart, isBlank, List.dropWhile_cons, List.all_cons, Bool.and_eq_true] at ih ⊢
    by_cases blank : ProfilePicker.isBlank c = true <;> simp [blank, ih]

/-- Dropping the blanks at the end leaves nothing exactly when nothing but blanks is there. -/
theorem trimEnd_eq_nil_iff {s : Text} : s.trimEnd = [] ↔ s.isBlank = true := by
  rw [trimEnd, List.reverse_eq_nil_iff]
  exact trimStart_eq_nil_iff.trans (by simp [isBlank])

/-- What is dropped at the start is blank. -/
theorem isBlank_trimStart (s : Text) : s.trimStart.isBlank = s.isBlank := by
  induction s with
  | nil => rfl
  | cons c s ih =>
    simp only [trimStart, isBlank, List.dropWhile_cons, List.all_cons] at ih ⊢
    by_cases blank : ProfilePicker.isBlank c = true <;> simp [blank, ih]

/-- Trimming leaves nothing exactly when nothing but blanks is there. -/
theorem trim_eq_nil_iff {s : Text} : s.trim = [] ↔ s.isBlank = true := by
  rw [trim, trimEnd_eq_nil_iff, isBlank_trimStart]

end Text

end ProfilePicker
