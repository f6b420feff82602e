import ProfilePicker.Text.Basic

/-!
# Control sequences

A text that comes from outside may hold sequences of characters that tell a terminal how to
show what follows. A message shows such a text without them. A sequence starts with the escape
character, and its next character says how it goes on: as numbers up to a letter, as a string
up to its end, or as marks up to a letter. A line break, a tab or a form feed inside a sequence
breaks it off and is shown.
-/
namespace ProfilePicker.Text

/-- Where in a control sequence a character is met. -/
inductive Control where
  /-- In none. -/
  | outside
  /-- Directly after the escape character. -/
  | escape
  /-- After marks that follow the escape character. -/
  | marks
  /-- Among the numbers of a sequence. -/
  | numbers
  /-- In a string, which a bell may be able to end. -/
  | string (endsWithBell : Bool)
deriving Repr, DecidableEq

namespace Control

/-- Whether a character is in a range of code points. -/
def isWithin (first last : Nat) (c : Char) : Bool := first ≤ c.toNat && c.toNat ≤ last

/-- Whether a character moves on by a line or a column. -/
def isMove (c : Char) : Bool := c = '\t' || c = '\n' || c = '\x0c' || c = '\r'

/-- Whether a character outside of sequences is shown. -/
def isShown (c : Char) : Bool := isMove c || (0x20 ≤ c.toNat && c.toNat ≠ 0x7f)

/-- Where the character after an escape character leads. -/
def afterEscape (c : Char) : Control :=
  if c = '[' then numbers
  else if c = ']' then string true
  else if c = 'P' || c = 'X' || c = '^' || c = '_' then string false
  else if isWithin 0x20 0x2f c then marks
  else if isWithin 0x30 0x7e c then outside
  else escape

/-- Where a character leads, and whether it is shown. -/
def step (k : Control) (c : Char) : Control × Bool :=
  if c = '\x1b' then (escape, false)
  else if c = '\x18' || c = '\x1a' then (outside, false)
  else
    match k with
    | outside => (outside, isShown c)
    | string endsWithBell => (if endsWithBell && c = '\x07' then outside else k, false)
    | escape => if isMove c then (outside, true) else (afterEscape c, false)
    | marks =>
      if isMove c then (outside, true)
      else (if isWithin 0x30 0x7e c then outside else k, false)
    | numbers =>
      if isMove c then (outside, true)
      else (if isWithin 0x40 0x7e c then outside else k, false)

/-- What is shown of a text that starts at some point of a control sequence. -/
def shown : Control → Text → Text
  | _, [] => []
  | k, c :: rest =>
    let (next, isSeen) := k.step c
    if isSeen then c :: shown next rest else shown next rest

end Control

/-- A text without its control sequences. -/
def withoutControls (s : Text) : Text := Control.outside.shown s

end ProfilePicker.Text
