import ProfilePicker.Text.Basic

/-!
# Placed characters

A reader that reports where it failed works on placed characters: each character together
with its line and column. Lines count the line feeds met so far. A line feed stands in column
zero of the line it opens, and the characters after it in columns one, two and so on.
-/
namespace ProfilePicker

/-- A character and where it stands. -/
structure Placed where
  /-- The character. -/
  char : Char
  /-- How many line feeds the text has up to and including this character. -/
  line : Nat
  /-- How many characters follow the last line feed up to and including this character. -/
  column : Nat
deriving Repr, DecidableEq

namespace Text

/-- The characters of a text that continues after the given line and column. -/
def placedAfter (line column : Nat) : Text → List Placed
  | [] => []
  | c :: rest =>
    if c = '\n' then ⟨c, line + 1, 0⟩ :: placedAfter (line + 1) 0 rest
    else ⟨c, line, column + 1⟩ :: placedAfter line (column + 1) rest

/-- The characters of a text with their places. -/
def placed (s : Text) : List Placed := placedAfter 0 0 s

/-- Placing the characters of a text keeps them all, in order. -/
theorem map_char_placedAfter (line column : Nat) (s : Text) :
    (placedAfter line column s).map Placed.char = s := by
  induction s generalizing line column with
  | nil => rfl
  | cons c s ih => by_cases feed : c = '\n' <;> simp [placedAfter, feed, ih]

/-- Placing the characters of a text keeps them all, in order. -/
theorem map_char_placed (s : Text) : s.placed.map Placed.char = s :=
  map_char_placedAfter 0 0 s

end Text

end ProfilePicker
